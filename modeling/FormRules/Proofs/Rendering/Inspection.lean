import FormRules.Gate
import FormRules.Proofs.Record.RoundTrip
import FormRules.Proofs.Text.Quoting
import FormRules.Rule.Inspect

namespace FormRules

open Text (AllAscii SelfDelimiting quoted quoted_selfDelimiting)

/-- Two entries of one name, each with an ASCII text. -/
structure SameField (a b : String × String) : Prop where
  name : a.1 = b.1
  left : AllAscii a.2.toList
  right : AllAscii b.2.toList

theorem forall₂_sameField {as bs : List (String × String)}
    (hnames : as.map Prod.fst = bs.map Prod.fst) (ha : ∀ entry ∈ as, AllAscii entry.2.toList)
    (hb : ∀ entry ∈ bs, AllAscii entry.2.toList) : List.Forall₂ SameField as bs := by
  induction as generalizing bs with
  | nil =>
    rw [List.map_eq_nil_iff.mp hnames.symm]
    exact .nil
  | cons a as ih =>
    obtain ⟨b, bs, rfl, hname, hrest⟩ := List.map_eq_cons_iff.mp hnames.symm
    have hfirst : SameField a b := ⟨hname.symm, ha a List.mem_cons_self, hb b List.mem_cons_self⟩
    exact .cons hfirst (ih hrest.symm (List.forall_mem_of_forall_mem_cons ha)
      (List.forall_mem_of_forall_mem_cons hb))

def inspectField (entry : String × String) : String := entry.1 ++ ": " ++ quoted entry.2

theorem inspectField_selfDelimiting : SelfDelimiting SameField inspectField := by
  intro a b hab x y hsame
  obtain ⟨name, text⟩ := a
  obtain ⟨_, text'⟩ := b
  obtain ⟨rfl, htext, htext'⟩ := hab
  simp only [inspectField, String.append_assoc, String.append_right_inj] at hsame
  obtain ⟨rfl, hxy⟩ := quoted_selfDelimiting text text' ⟨htext, htext'⟩ x y hsame
  exact ⟨rfl, hxy⟩

/-- The texts of a kind as they stand after its name. -/
def inspectPayload (payload : List (String × String)) : String :=
  if payload.isEmpty then ""
  else " \x7b " ++ ", ".intercalate (payload.map inspectField) ++ " \x7d"

theorem inspectPayload_selfDelimiting : SelfDelimiting (List.Forall₂ SameField) inspectPayload := by
  intro as bs hall x y hsame
  by_cases has : as = []
  · subst has
    obtain rfl := List.forall₂_nil_left_iff.mp hall
    exact ⟨rfl, (String.append_right_inj _).mp hsame⟩
  · have hbs : bs ≠ [] := by
      intro hbs
      subst hbs
      exact has (List.forall₂_nil_right_iff.mp hall)
    rw [inspectPayload, inspectPayload, if_neg (mt List.isEmpty_iff.mp has),
      if_neg (mt List.isEmpty_iff.mp hbs)] at hsame
    simp only [String.append_assoc, String.append_right_inj] at hsame
    obtain ⟨rfl, hafter⟩ := inspectField_selfDelimiting.intercalate ", " as bs hall _ _ hsame
    exact ⟨rfl, (String.append_right_inj _).mp hafter⟩

namespace Kind

/-- All the texts that the kind holds are ASCII. -/
def Ascii (kind : Kind) : Prop := ∀ entry ∈ kind.payload, AllAscii entry.2.toList

/-- What a kind has besides its texts: a name of its own and a name for each of them. -/
def layout (kind : Kind) : String × List String := (kind.name, kind.payload.map Prod.fst)

def layouts : List (String × List String) :=
  [("IsTrue", []), ("NonEmpty", []), ("IsNumeric", []), ("Contains", ["needle"]),
    ("Greater", ["threshold"]), ("Lower", ["threshold"]), ("Between", ["lower", "upper"])]

theorem layout_mem_layouts (kind : Kind) : kind.layout ∈ layouts := by
  cases kind <;> simp [layout, layouts, name, payload]

/-- No name begins another, and the name tells which texts follow. -/
theorem layouts_selfDelimiting :
    SelfDelimiting (fun a b => a ∈ layouts ∧ b ∈ layouts) Prod.fst :=
  .of_words (by decide +kernel)

theorem eq_of_name_of_payload {a b : Kind} (hname : a.name = b.name)
    (hpayload : a.payload = b.payload) : a = b := by
  apply (record_same_iff a b).mp
  intro member
  rw [record, record, hname, hpayload]

theorem inspect_eq (kind : Kind) : kind.inspect = kind.name ++ inspectPayload kind.payload := by
  rw [inspect, inspectPayload]
  split_ifs
  · exact String.append_empty.symm
  · change kind.name ++ " \x7b " ++ ", ".intercalate (kind.payload.map inspectField) ++ " \x7d" = _
    simp only [String.append_assoc]

theorem inspect_selfDelimiting : SelfDelimiting (fun a b => a.Ascii ∧ b.Ascii) inspect := by
  intro a b hascii x y hsame
  rw [inspect_eq, inspect_eq, String.append_assoc, String.append_assoc] at hsame
  obtain ⟨hlayout, hafter⟩ := layouts_selfDelimiting a.layout b.layout
    ⟨a.layout_mem_layouts, b.layout_mem_layouts⟩ _ _ hsame
  obtain ⟨hname, hfields⟩ := Prod.mk.inj hlayout
  obtain ⟨hpayload, hxy⟩ := inspectPayload_selfDelimiting a.payload b.payload
    (forall₂_sameField hfields hascii.1 hascii.2) x y hafter
  exact ⟨eq_of_name_of_payload hname hpayload, hxy⟩

end Kind

theorem none_append_ne_some (x y : String) : "None" ++ x ≠ "Some(" ++ y := by
  intro hsame
  have hwords : SelfDelimiting (fun a b => a ∈ ["None", "Some("] ∧ b ∈ ["None", "Some("]) id :=
    .of_words (by decide +kernel)
  obtain ⟨hword, -⟩ := hwords "None" "Some(" (by decide) x y hsame
  exact absurd hword (by decide)

theorem inspectMessage_selfDelimiting :
    SelfDelimiting (fun a b => (∀ text ∈ a, AllAscii text.toList) ∧ ∀ text ∈ b, AllAscii text.toList)
      inspectMessage := by
  intro a b hascii x y hsame
  cases a with
  | none =>
    cases b with
    | none => exact ⟨rfl, (String.append_right_inj _).mp hsame⟩
    | some text =>
      simp only [inspectMessage, String.append_assoc] at hsame
      exact absurd hsame (none_append_ne_some _ _)
  | some text =>
    cases b with
    | none =>
      simp only [inspectMessage, String.append_assoc] at hsame
      exact absurd hsame.symm (none_append_ne_some _ _)
    | some text' =>
      simp only [inspectMessage, String.append_assoc, String.append_right_inj] at hsame
      obtain ⟨rfl, hafter⟩ := quoted_selfDelimiting text text'
        ⟨hascii.1 text rfl, hascii.2 text' rfl⟩ _ _ hsame
      exact ⟨rfl, (String.append_right_inj _).mp hafter⟩

theorem inspectGate_selfDelimiting : SelfDelimiting (fun _ _ => True) inspectGate := by
  have hwords : SelfDelimiting (fun a b => a ∈ [false, true] ∧ b ∈ [false, true]) inspectGate :=
    .of_words (by decide +kernel)
  intro a b _
  exact hwords a b (by revert a b; decide)

namespace Rule

variable {γ : Type} {a b : Rule γ}

/-- All the texts that the rule was given are ASCII. -/
structure Ascii (rule : Rule γ) : Prop where
  kind : rule.kind.Ascii
  message : ∀ text ∈ rule.message, AllAscii text.toList

/-- The parts of a rule spelled out, each after words that are the same for every rule. -/
theorem inspect_eq (rule : Rule γ) :
    rule.inspect = "Rule \x7b kind: " ++ (rule.kind.inspect ++ (", message: " ++
      (inspectMessage rule.message ++ (", gate: " ++ (inspectGate rule.gate.isSome ++ " \x7d"))))) := by
  unfold inspect
  simp only [String.append_assoc]

/-- The rule spelled out shows where it ends, and all of it but the gate. -/
theorem inspect_append_inj (ha : a.Ascii) (hb : b.Ascii) {x y : String}
    (h : a.inspect ++ x = b.inspect ++ y) :
    (a.kind = b.kind ∧ a.message = b.message ∧ a.gate.isSome = b.gate.isSome) ∧ x = y := by
  simp only [inspect_eq, String.append_assoc, String.append_right_inj] at h
  obtain ⟨hkind, hmessages⟩ :=
    Kind.inspect_selfDelimiting a.kind b.kind ⟨ha.kind, hb.kind⟩ _ _ h
  rw [String.append_right_inj] at hmessages
  obtain ⟨hmessage, hgates⟩ :=
    inspectMessage_selfDelimiting a.message b.message ⟨ha.message, hb.message⟩ _ _ hmessages
  rw [String.append_right_inj] at hgates
  obtain ⟨hgate, hends⟩ :=
    inspectGate_selfDelimiting a.gate.isSome b.gate.isSome trivial _ _ hgates
  exact ⟨⟨hkind, hmessage, hgate⟩, (String.append_right_inj _).mp hends⟩

/-- Rules spelled out alike are alike in kind and in message, and both have a gate or neither: no text
that a rule holds can be taken for the words around it. -/
theorem inspect_eq_iff (ha : a.Ascii) (hb : b.Ascii) :
    a.inspect = b.inspect ↔
      a.kind = b.kind ∧ a.message = b.message ∧ a.gate.isSome = b.gate.isSome := by
  constructor
  · intro h
    have hnothing : a.inspect ++ "" = b.inspect ++ "" := by rw [h]
    exact (inspect_append_inj ha hb hnothing).1
  · intro h
    obtain ⟨hkind, hmessage, hgate⟩ := h
    rw [inspect_eq, inspect_eq, hkind, hmessage, hgate]

/-- A needle that quotes the end of another rule, and a message that is empty but there. -/
theorem inspect_eq_iff_quoting :
    let imitation : Rule Gate := .contains "\x1b\" \x7d, message: Some(\""
    let rule : Rule Gate := (Rule.contains "\x1b").withMessage ""
    imitation.Ascii ∧ rule.Ascii ∧
      rule.inspect = "Rule \x7b kind: Contains \x7b needle: \"\\u\x7b1b\x7d\" \x7d" ++
        ", message: Some(\"\"), gate: None \x7d" ∧
      imitation.inspect ≠ rule.inspect := by
  intro imitation rule
  have hneedle : AllAscii "\x1b\" \x7d, message: Some(\"".toList := by decide
  have himitation : imitation.Ascii := by
    constructor
    · exact List.forall_mem_singleton.mpr hneedle
    · intro text htext
      cases htext
  have hrule : rule.Ascii := by
    constructor
    · exact List.forall_mem_singleton.mpr (by decide)
    · intro text htext
      cases htext
      decide
  refine ⟨himitation, hrule, by decide +kernel, ?_⟩
  intro h
  obtain ⟨hkind, -⟩ := (inspect_eq_iff himitation hrule).mp h
  exact absurd hkind (by decide)

end Rule

end FormRules
