import ServiceAccess.Proofs.Registry
import ServiceAccess.Provider.Cloud.Basic
import ServiceAccess.Provider.Docker

/-! # Winners

Many types may ask for one identifier, and many may have an inconsistent description. A registry takes the first
consistent one of each identifier.

* **`Wins`**: the first consistent type of its identifier wins. **`winners`** are the types of a list that win.
* **`refusal?`**: why a type loses.
* **`HoldsWinners.register`**: a registry that holds the winners so far still does after the next type has asked, and
  **`HoldsWinners.outcome_register`**: it takes this type exactly when that one wins. -/

namespace ServiceAccess.Registry

variable {ι : Type}

/-! ## Winners -/

/-- Whether a description is consistent is decided by the search for a fault. -/
instance (type : ConnectorType) : Decidable (Consistent type type.spec.resourceTypes) :=
  decidable_of_iff ((fault? type).isNone = true) (Option.isNone_iff_eq_none.trans fault?_eq_none_iff)

/-- **A candidate for an identifier**: a consistent type that has it. -/
def CandidateFor (id : String) (type : ConnectorType) : Prop :=
  type.spec.id = id ∧ Consistent type type.spec.resourceTypes

instance (id : String) (type : ConnectorType) : Decidable (CandidateFor id type) :=
  inferInstanceAs (Decidable (_ ∧ _))

/-- **A type wins** over those before it: it is consistent, and no consistent type before it has its
identifier. -/
def Wins (earlier : List ConnectorType) (type : ConnectorType) : Prop :=
  Consistent type type.spec.resourceTypes ∧ ∀ t ∈ earlier, ¬ CandidateFor type.spec.id t

instance (earlier : List ConnectorType) (type : ConnectorType) : Decidable (Wins earlier type) :=
  inferInstanceAs (Decidable (_ ∧ _))

/-- The types of a list that win, in order, where some types come before the list. -/
def winners (earlier : List ConnectorType) : List ConnectorType → List ConnectorType
  | [] => []
  | type :: rest =>
    (if Wins earlier type then [type] else []) ++ winners (earlier ++ [type]) rest

/-- The winners of a list in two parts. -/
theorem winners_append (earlier l m : List ConnectorType) :
    winners earlier (l ++ m) = winners earlier l ++ winners (earlier ++ l) m := by
  induction l generalizing earlier with
  | nil => rw [List.append_nil]; rfl
  | cons type l ih => simp only [List.cons_append, winners, ih, List.append_assoc, List.nil_append]

/-- One more type is one more winner, or none. -/
theorem winners_concat (l : List ConnectorType) (type : ConnectorType) :
    winners [] (l ++ [type]) = winners [] l ++ if Wins l type then [type] else [] := by
  rw [winners_append, List.nil_append, winners, winners, List.append_nil]

/-- Who wins depends only on the candidates before. -/
theorem winners_congr {earlier earlier' : List ConnectorType}
    (same : ∀ id, (∃ t ∈ earlier, CandidateFor id t) ↔ ∃ t ∈ earlier', CandidateFor id t)
    (l : List ConnectorType) : winners earlier l = winners earlier' l := by
  induction l generalizing earlier earlier' with
  | nil => rfl
  | cons type l ih =>
    have wins : Wins earlier type ↔ Wins earlier' type := by
      have here := not_congr (same type.spec.id)
      simp only [not_exists, not_and] at here
      exact and_congr_right fun _ => here
    have next : ∀ id, (∃ t ∈ earlier ++ [type], CandidateFor id t) ↔
        ∃ t ∈ earlier' ++ [type], CandidateFor id t := by
      intro id
      simp only [List.mem_append, List.mem_singleton, or_and_right, exists_or, exists_eq_left, same id]
    rw [winners, winners, if_congr wins rfl rfl, ih next]

/-- **A type that loses hinders no other one**: the winners are those of the list without it. -/
theorem winners_of_not_wins {l : List ConnectorType} {type : ConnectorType} (loses : ¬ Wins l type)
    (m : List ConnectorType) : winners [] (l ++ type :: m) = winners [] (l ++ m) := by
  rw [winners_append, winners_append, List.nil_append, winners, if_neg loses, List.nil_append]
  congr 1
  refine winners_congr (fun id => ?_) m
  simp only [List.mem_append, List.mem_singleton, or_and_right, exists_or, exists_eq_left]
  refine or_iff_left_of_imp ?_
  -- a consistent type loses only to a candidate before it
  rintro ⟨rfl, consistent⟩
  by_contra! none
  exact loses ⟨consistent, none⟩

/-- **The winner of an identifier** is the first candidate for it. -/
theorem find?_winners (l : List ConnectorType) (id : String) :
    (winners [] l).find? (fun t => t.spec.id = id) = l.find? fun t => CandidateFor id t := by
  induction l using List.reverseRecOn with
  | nil => rfl
  | append_singleton l type ih =>
    rw [winners_concat, List.find?_append, List.find?_append, ih]
    cases first : l.find? fun t => CandidateFor id t with
    | some t => rfl
    | none =>
      have none : ∀ t ∈ l, ¬ CandidateFor id t := by simpa using first
      by_cases same : type.spec.id = id
      · subst same
        by_cases consistent : Consistent type type.spec.resourceTypes
        · have wins : Wins l type := ⟨consistent, none⟩
          simp [wins, CandidateFor, consistent]
        · have loses : ¬ Wins l type := fun wins => consistent wins.1
          simp [loses, CandidateFor, consistent]
      · by_cases wins : Wins l type <;> simp [wins, CandidateFor, same]

/-- A type with an unknown auth method does not reserve its identifier, and a second type does not get it. -/
example : winners [] [⟨{ Docker.spec with methods := [] }, ∅, (Cloud.connectorType .direct).provider⟩,
      Docker.connectorType "first" "docker", Docker.connectorType "second" "docker",
      Cloud.connectorType .direct]
    = [Docker.connectorType "first" "docker", Cloud.connectorType .direct] := rfl

/-! ## Refusals -/

/-- **Why a type is refused** after others, if it is: one of them has its identifier, or it has a fault of its
own. -/
def refusal? (earlier : List ConnectorType) (type : ConnectorType) : Option Failure :=
  if ∃ t ∈ earlier, CandidateFor type.spec.id t then some (.duplicateType type.spec.id)
  else (fault? type).map fun problem => .configuration problem none

/-- Exactly the winners are not refused. -/
theorem refusal?_eq_none_iff {earlier : List ConnectorType} {type : ConnectorType} :
    refusal? earlier type = none ↔ Wins earlier type := by
  rw [refusal?, Wins, ← fault?_eq_none_iff]
  split
  · next taken =>
    obtain ⟨t, before, candidate⟩ := taken
    simp only [reduceCtorEq, false_iff, not_and]
    exact fun _ none => none t before candidate
  · next free =>
    simp only [not_exists, not_and] at free
    simp only [Option.map_eq_none_iff, iff_self_and]
    exact fun _ => free

/-! ## Registries of winners -/

/-- A type with the identifier that it is filed under. -/
def filed (type : ConnectorType) : String × ConnectorType := (type.spec.id, type)

/-- **A registry of the winners** among some types. -/
def HoldsWinners (r : Registry ι) (l : List ConnectorType) : Prop := r.types.entries = (winners [] l).map filed

theorem holdsWinners_empty : HoldsWinners (.empty : Registry ι) [] := rfl

variable {r : Registry ι} {l : List ConnectorType}

/-- In a registry of winners an identifier means its first candidate. -/
theorem HoldsWinners.find?_eq (h : r.HoldsWinners l) (id : String) :
    r.find? id = l.find? fun t => CandidateFor id t := by
  rw [HoldsWinners] at h
  rw [← find?_winners, find?, Table.get?, h, List.find?_map, Option.map_map]
  exact Option.map_id'

theorem HoldsWinners.list_eq (h : r.HoldsWinners l) : r.list = winners [] l := by
  rw [HoldsWinners] at h
  rw [list, Table.values, h, List.map_map]
  exact List.map_id _

/-- An identifier is taken in a registry of winners when there is a candidate for it. -/
theorem HoldsWinners.mem_keys_iff (h : r.HoldsWinners l) (id : String) :
    id ∈ r.types.keys ↔ ∃ t ∈ l, CandidateFor id t := by
  have found := h.find?_eq id
  rw [← Table.contains_iff, Table.contains_eq_isSome, ← find?, found, List.find?_isSome]
  simp

/-- **Whether the next type is refused**, and why. -/
theorem HoldsWinners.outcome_register (h : r.HoldsWinners l) (type : ConnectorType) :
    ((Call.register type).run r).1 = (refusal? l type).elim (.ok ()) .error := by
  rw [run_register, refusal?, if_congr (h.mem_keys_iff type.spec.id) rfl rfl]
  split
  · rfl
  · cases fault? type <;> rfl

/-- **What becomes of the registry**: it holds the winners, also when the next type has been refused. -/
theorem HoldsWinners.register (h : r.HoldsWinners l) (type : ConnectorType) :
    HoldsWinners ((Call.register type).run r).2 (l ++ [type]) := by
  have wins : refusal? l type = none ↔ Wins l type := refusal?_eq_none_iff
  rw [HoldsWinners, run_register, winners_concat]
  by_cases taken : type.spec.id ∈ r.types.keys
  · have loses : ¬ Wins l type := by
      rw [← wins, refusal?, if_pos ((h.mem_keys_iff _).1 taken)]
      exact Option.some_ne_none _
    rw [if_pos taken, if_neg loses, List.append_nil]
    exact h
  · have free := mt (h.mem_keys_iff type.spec.id).2 taken
    rw [refusal?, if_neg free, Option.map_eq_none_iff] at wins
    rw [if_neg taken]
    cases fault : fault? type with
    | some problem =>
      have loses : ¬ Wins l type := by simp [← wins, fault]
      rw [if_neg loses, List.append_nil]
      exact h
    | none =>
      rw [if_pos (wins.1 fault), List.map_append, ← h]
      exact Table.entries_insert_of_not_mem taken type

end ServiceAccess.Registry
