import ShellPrompt.Proofs.Host
import ShellPrompt.Proofs.Json.LineEnds

/-!
Files of JSON documents. What is read from a file is the document that its bytes are the text of,
whichever line ends that text has.
-/

namespace ShellPrompt.Json

variable {host : Host} {path : Path} {document : Value}

/-- A path holds a JSON document: the bytes of its file are the text of one. -/
def HeldAt (host : Host) (path : Path) (document : Value) : Prop :=
  ∃ content text, host.files.read host.working path = .ok content ∧
    String.fromUTF8? content = some text ∧ Document text.toList document

theorem heldAt_iff : HeldAt host path document ↔
    ∃ text, host.readText path = .ok text ∧ read text = .ok document := by
  simp only [HeldAt, Host.readText_eq_ok_iff, read_eq_ok_iff]
  constructor
  · rintro ⟨content, text, held, decoded, isDocument⟩
    refine ⟨_, ⟨content, text, held, decoded, rfl⟩, ?_⟩
    rw [String.toList_ofList]
    exact document_unifyNewlines_iff.mpr isDocument
  · rintro ⟨_, ⟨content, text, held, decoded, rfl⟩, isDocument⟩
    rw [String.toList_ofList] at isDocument
    exact ⟨content, text, held, decoded, document_unifyNewlines_iff.mp isDocument⟩

theorem exists_heldAt
    (parses : ((host.readText path).toOption.bind fun text => (read text).toOption).isSome) :
    ∃ document, HeldAt host path document := by
  obtain ⟨document, parsed⟩ := Option.isSome_iff_exists.mp parses
  obtain ⟨text, given, parsed⟩ := Option.bind_eq_some_iff.mp parsed
  exact ⟨document, heldAt_iff.mpr ⟨text, toOption_eq_some_iff.mp given,
    toOption_eq_some_iff.mp parsed⟩⟩

theorem ValueText.exists_table {written : List Char} {entries : List (Value × Value)}
    (isValue : ValueText written (.map entries)) :
    ∃ fields : OrderedMap String Value, Value.map entries = .table fields.entries := by
  cases isValue with
  | scalar scalar =>
      cases scalar with
      | word word => cases word
      | positive number => cases number
      | negative number => cases number
  | emptyObject blank => exact ⟨.empty, rfl⟩
  | object named padded names each => exact ⟨_, rfl⟩

/-- The keys of an object are texts, and each of them has one value. -/
theorem HeldAt.exists_table {entries : List (Value × Value)}
    (held : HeldAt host path (.map entries)) :
    ∃ fields : OrderedMap String Value, Value.map entries = .table fields.entries := by
  obtain ⟨_, _, _, _, part, _, isValue, _, same⟩ := held
  rw [same] at isValue
  exact isValue.exists_table

end ShellPrompt.Json
