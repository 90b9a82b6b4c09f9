import RoleCatalog.Proofs.Json.Reading
import RoleCatalog.Report.Json

/-! # Reports read back

A report is read back from the text that was written for it, whatever characters its code
and its message hold. So the text belongs to no other report.
-/

namespace RoleCatalog.Report

open Json

theorem tokens_toJson (report : Report) :
    report.toJson.tokens =
      [.openObject, .string "type", .colon, .string report.kind.label, .comma,
        .string "code", .colon, .string report.code, .comma,
        .string "message", .colon, .string report.message, .closeObject] := by
  simp [toJson, Value.ofMembers, Members.ofList, Value.tokens, Members.laterTokens]

theorem legible_tokens_toJson (report : Report) :
    ∀ token ∈ report.toJson.tokens, token.Legible := by
  simp [tokens_toJson, Token.Legible]

theorem depth_toJson (report : Report) : report.toJson.depth = 1 := by
  simp [toJson, Value.ofMembers, Members.ofList, Value.depth, Members.depth]

theorem ofJson?_toJson (report : Report) : ofJson? report.toJson = some report := by
  have read : ofJson? report.toJson = ofParts? report.kind.label report.code report.message := by
    simp [ofJson?, toJson, Value.ofMembers, ofMembers?, soleText?]
  rw [read, ofParts?, Kind.ofLabel?_label]
  rfl

theorem ofText?_toText (report : Report) : Value.ofText? report.toText = some report.toJson := by
  have shallow : report.toJson.depth < nestingLimit := by
    rw [depth_toJson]
    decide
  exact Value.ofText?_compact (legible_tokens_toJson report) shallow

theorem ofText_toText (report : Report) : ofText report.toText = .ok report := by
  rw [ofText, ofText?_toText, Option.bind_some, ofJson?_toJson]

/-- The text of a report is an object with its kind, code and message. It is read as the
report again, and it is the text of no other. -/
theorem report_text_reads_back (report : Report) :
    Value.ofText? report.toText =
      some (.ofMembers [("type", .string report.kind.label), ("code", .string report.code),
        ("message", .string report.message)]) ∧
    ofText report.toText = .ok report ∧
    ∀ other : Report, other.toText = report.toText ↔ other = report := by
  refine ⟨ofText?_toText report, ofText_toText report, fun other => ⟨?_, congrArg toText⟩⟩
  intro equal
  have read := ofText_toText other
  rw [equal, ofText_toText report] at read
  exact (Except.ok.inj read).symm

end RoleCatalog.Report
