import FormRules.Proofs.Kind.Payload
import FormRules.Record

namespace FormRules

/-- The two records have the same members, in whatever order. -/
def Record.Same (a b : Record) : Prop := ∀ name, a.lookup name = b.lookup name

theorem Record.Same.text? {a b : Record} (h : a.Same b) (name : String) :
    a.text? name = b.text? name := by
  rw [Record.text?, Record.text?, h name]

namespace Kind

/-- The code is the name in small letters. -/
theorem snakeCase_name (kind : Kind) : snakeCase kind.name = kind.code := by
  cases kind with
  | isTrue => rfl
  | nonEmpty => rfl
  | isNumeric => rfl
  | contains needle =>
    change snakeCase "Contains" = "contains"
    rfl
  | greater threshold =>
    change snakeCase "Greater" = "greater"
    rfl
  | lower threshold =>
    change snakeCase "Lower" = "lower"
    rfl
  | between low high =>
    change snakeCase "Between" = "between"
    rfl

theorem record_tag (kind : Kind) : kind.record.text? "kind" = some kind.code := by
  rw [← snakeCase_name]
  rfl

/-- No text that a kind holds stands under the name of the tag, and no two under one name. -/
theorem record_nodup (kind : Kind) : (kind.record.map Prod.fst).Nodup := by
  cases kind <;> simp [record, payload]

theorem mem_record_iff (kind : Kind) (name : String) (member : Member) :
    (name, member) ∈ kind.record ↔
      (name = "kind" ∧ member = .text kind.code) ∨
        ∃ text, kind.Holds name text ∧ member = .text text := by
  rw [record, snakeCase_name, List.mem_cons, Prod.mk.injEq, List.mem_map]
  simp only [← mem_payload_iff]
  refine or_congr_right ?_
  constructor
  · intro h
    obtain ⟨⟨_, text⟩, hmem, hmember⟩ := h
    obtain ⟨rfl, rfl⟩ := Prod.mk.inj hmember
    exact ⟨text, hmem, rfl⟩
  · intro h
    obtain ⟨text, hmem, hmember⟩ := h
    rw [hmember]
    exact ⟨(name, text), hmem, rfl⟩

theorem ofRecord?_congr {a b : Record} (h : a.Same b) : ofRecord? a = ofRecord? b := by
  simp only [ofRecord?, h.text?]

theorem ofRecord?_record (kind : Kind) : ofRecord? kind.record = some kind := by
  rw [ofRecord?, record_tag]
  cases kind <;> rfl

/-- Kinds with the same members are the same. -/
theorem record_same_iff (a b : Kind) : a.record.Same b.record ↔ a = b := by
  constructor
  · intro h
    apply Option.some.inj
    rw [← ofRecord?_record a, ← ofRecord?_record b]
    exact ofRecord?_congr h
  · intro h
    rw [h]
    exact fun _ => rfl

end Kind

namespace FieldError

theorem record_same_iff (a b : FieldError) : a.record.Same b.record ↔ a = b := by
  constructor
  · intro h
    obtain ⟨field, codes, messages⟩ := a
    obtain ⟨field', codes', messages'⟩ := b
    have hfield : some (Member.text field) = some (.text field') := h "field"
    have hcodes : some (Member.texts codes) = some (.texts codes') := h "codes"
    have hmessages : some (Member.texts messages) = some (.texts messages') := h "messages"
    cases hfield
    cases hcodes
    cases hmessages
    rfl
  · intro h
    rw [h]
    exact fun _ => rfl

theorem codes_ofFailures {γ : Type} (field : String) (failures : List (Rule γ)) :
    (ofFailures field failures).codes.map some =
      failures.map fun failure => failure.kind.record.text? "kind" := by
  rw [ofFailures, List.map_map]
  apply List.map_congr_left
  intro failure _
  exact (failure.kind.record_tag).symm

end FieldError

/-- A record says what it is made from, no more and no less. That of a kind has the code as its tag
and the kind's own texts beside it, and is read back as the kind, in whatever order its members come.
That of a field's failures has the field, their tags and their messages. Equal records are of equal
kinds or errors. -/
theorem records_faithful {γ : Type} :
    (∀ kind : Kind,
      kind.record.text? "kind" = some kind.code ∧ toString kind = kind.code ∧
      (kind.record.map Prod.fst).Nodup ∧
      (∀ name member, (name, member) ∈ kind.record ↔
        (name = "kind" ∧ member = .text kind.code) ∨
          ∃ text, kind.Holds name text ∧ member = .text text) ∧
      ∀ record : Record, record.Same kind.record → Kind.ofRecord? record = some kind) ∧
    (∀ a b : Kind, a.record.Same b.record ↔ a = b) ∧
    (∀ (field : String) (failures : List (Rule γ)), ∃ codes messages,
      (FieldError.ofFailures field failures).record =
        [("field", .text field), ("codes", .texts codes), ("messages", .texts messages)] ∧
      codes.length = failures.length ∧ messages.length = failures.length ∧
      codes.map some = failures.map fun failure => failure.kind.record.text? "kind") ∧
    ∀ a b : FieldError, a.record.Same b.record ↔ a = b := by
  refine ⟨?_, Kind.record_same_iff, ?_, FieldError.record_same_iff⟩
  · intro kind
    refine ⟨kind.record_tag, rfl, kind.record_nodup, kind.mem_record_iff, ?_⟩
    intro record h
    rw [Kind.ofRecord?_congr h]
    exact kind.ofRecord?_record
  · intro field failures
    exact ⟨_, _, rfl, List.length_map _, List.length_map _,
      FieldError.codes_ofFailures field failures⟩

/-- A range whose bounds quote other members, its own members in another order. -/
theorem records_faithful_range :
    let kind : Kind := .between "\"kind\": \"lower\"" ""
    let record : Record :=
      [("upper", .text ""), ("kind", .text "between"), ("lower", .text "\"kind\": \"lower\"")]
    record.Same kind.record ∧ record ≠ kind.record ∧ Kind.ofRecord? record = some kind := by
  intro kind record
  have hsame : record.Same kind.record := by
    intro name
    rw [Kind.record, Kind.snakeCase_name]
    change record.lookup name = List.lookup name [("kind", .text "between"),
      ("lower", .text "\"kind\": \"lower\""), ("upper", .text "")]
    simp only [record, List.lookup_cons, List.lookup_nil]
    by_cases hkind : name = "kind"
    · subst hkind
      rfl
    · by_cases hlower : name = "lower"
      · subst hlower
        rfl
      · rw [beq_false_of_ne hkind, beq_false_of_ne hlower]
  obtain ⟨-, -, -, -, hread⟩ := (records_faithful (γ := Unit)).1 kind
  exact ⟨hsame, by decide, hread record hsame⟩

end FormRules
