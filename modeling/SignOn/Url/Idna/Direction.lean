import SignOn.Url.Idna.DirectionTable
import SignOn.Url.Idna.Normal

/-!
What scripts ask of labels: in a name with letters that run from right to left every label keeps to
one direction, and the two marks that join letters or part them stand only where they have that
effect.
-/
namespace SignOn.Url.Idna

inductive Direction where
  | left
  | right
  | arabicLetter
  | arabicNumber
  | europeanNumber
  | europeanSeparator
  | commonSeparator
  | europeanTerminator
  | otherNeutral
  | boundaryNeutral
  | nonSpacingMark
  deriving DecidableEq, Repr

def directionSpans : List (Direction × Array Text.Span) :=
  [(.right, rightSpans), (.arabicLetter, arabicLetterSpans), (.arabicNumber, arabicNumberSpans),
    (.europeanNumber, europeanNumberSpans), (.europeanSeparator, europeanSeparatorSpans),
    (.commonSeparator, commonSeparatorSpans), (.europeanTerminator, europeanTerminatorSpans),
    (.otherNeutral, otherNeutralSpans), (.boundaryNeutral, boundaryNeutralSpans),
    (.nonSpacingMark, nonSpacingMarkSpans)]

def direction (c : Char) : Direction :=
  ((directionSpans.find? fun d => Text.Spans.contains d.2 c.toNat).map (·.1)).getD .left

/-- Whether a label makes its name one with letters from right to left. -/
def hasRightToLeft (ds : List Direction) : Bool :=
  ds.any fun d => d = .right || d = .arabicLetter || d = .arabicNumber

def neutral : List Direction :=
  [.europeanNumber, .europeanSeparator, .commonSeparator, .europeanTerminator, .otherNeutral,
    .boundaryNeutral, .nonSpacingMark]

/-- The last direction that is no mark's. -/
def lastDirection? (ds : List Direction) : Option Direction :=
  (ds.reverse.dropWhile (· = .nonSpacingMark)).head?

/-- Whether a label keeps to one direction. -/
def keepsDirection (ds : List Direction) : Bool :=
  match ds with
  | [] => true
  | .left :: _ =>
    ds.all (fun d => d = .left || neutral.contains d) &&
      match lastDirection? ds with
      | some d => d = .left || d = .europeanNumber
      | none => false
  | .right :: _ | .arabicLetter :: _ =>
    ds.all (fun d => d = .right || d = .arabicLetter || d = .arabicNumber || neutral.contains d) &&
      !(ds.contains .europeanNumber && ds.contains .arabicNumber) &&
      match lastDirection? ds with
      | some d => d = .right || d = .arabicLetter || d = .europeanNumber || d = .arabicNumber
      | none => false
  | _ => false

/-- The class of the sign that suppresses a vowel. -/
def viramaClass : Nat := 9

def isTransparent (c : Char) : Bool := Text.Spans.contains transparentSpans c.toNat

/-- Whether a letter before and a letter after would join, but for the mark between. -/
def joinsAcross (before after : List Char) : Bool :=
  (match before.dropWhile isTransparent with
    | c :: _ => Text.Spans.contains dualJoiningSpans c.toNat ||
        Text.Spans.contains leftJoiningSpans c.toNat
    | [] => false) &&
  match after.dropWhile isTransparent with
    | c :: _ => Text.Spans.contains dualJoiningSpans c.toNat ||
        Text.Spans.contains rightJoiningSpans c.toNat
    | [] => false

/-- Whether each joining mark has its effect, given the characters before, nearest first. -/
def joinersFit (before : List Char) : List Char → Bool
  | [] => true
  | c :: r =>
    let afterVirama := match before with
      | b :: _ => combiningClass b.toNat == viramaClass
      | [] => false
    (if c.toNat = 0x200d then afterVirama
      else if c.toNat = 0x200c then afterVirama || joinsAcross before r
      else true) && joinersFit (c :: before) r

end SignOn.Url.Idna
