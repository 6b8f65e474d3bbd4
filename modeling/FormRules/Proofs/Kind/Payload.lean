import FormRules.Kind

namespace FormRules.Kind

/-- What a kind holds: a text of its own under a name. -/
inductive Holds : Kind → String → String → Prop where
  | needle {needle : String} : Holds (.contains needle) "needle" needle
  | greater {threshold : String} : Holds (.greater threshold) "threshold" threshold
  | lower {threshold : String} : Holds (.lower threshold) "threshold" threshold
  | low {low high : String} : Holds (.between low high) "lower" low
  | high {low high : String} : Holds (.between low high) "upper" high

theorem mem_payload_iff (kind : Kind) (name text : String) :
    (name, text) ∈ kind.payload ↔ kind.Holds name text := by
  constructor
  · intro h
    cases kind with
    | isTrue => cases h
    | nonEmpty => cases h
    | isNumeric => cases h
    | contains needle =>
      obtain ⟨rfl, rfl⟩ := Prod.mk.inj (List.mem_singleton.mp h)
      exact .needle
    | greater threshold =>
      obtain ⟨rfl, rfl⟩ := Prod.mk.inj (List.mem_singleton.mp h)
      exact .greater
    | lower threshold =>
      obtain ⟨rfl, rfl⟩ := Prod.mk.inj (List.mem_singleton.mp h)
      exact .lower
    | between low high =>
      rcases List.mem_cons.mp h with hlow | hhigh
      · obtain ⟨rfl, rfl⟩ := Prod.mk.inj hlow
        exact .low
      · obtain ⟨rfl, rfl⟩ := Prod.mk.inj (List.mem_singleton.mp hhigh)
        exact .high
  · intro h
    cases h with
    | needle => exact List.mem_singleton_self _
    | greater => exact List.mem_singleton_self _
    | lower => exact List.mem_singleton_self _
    | low => exact List.mem_cons_self
    | high => exact List.mem_cons_of_mem _ (List.mem_singleton_self _)

end FormRules.Kind
