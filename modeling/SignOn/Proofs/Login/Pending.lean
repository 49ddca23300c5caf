import SignOn.Login.Pending
import SignOn.Proofs.Timestamp

/-! What is kept of a sign-on as a JSON text is read as what it was. -/
namespace SignOn.Login.Pending

open Json Text.Utf8

variable {p : Pending}

theorem reads (h : p.createdAt.InYears) : Reads reader p.toJson p := by
  have members : ReadsFields fields ⟨⟨"", .epoch⟩, []⟩
      [("referrer", .string p.referrer), ("created_at", p.createdAt.toJson)]
      ⟨p, ["created_at", "referrer"]⟩ :=
    .cons rfl (by simp) ((reads_string p.referrer).map _) <|
      .cons rfl (by simp) ((Timestamp.reads h).map _) .nil
  exact members.reads rfl

theorem parse?_text (h : p.createdAt.InYears) :
    parse? reader (encode p.toJson.text) = some p := (reads h).parse?

end SignOn.Login.Pending
