/-!
Powers. Every module writes `b ^ e` for the power of the core library on natural numbers and on
integers, also beside a library whose monoids have powers of their own.
-/

attribute [instance (10000), default_instance 10000] instPowNat
