import ServiceAccess.Proofs.Registry.History

/-! # Removals of live connectors

A removal takes the connector out of the registry and then waits until it has disconnected, while other calls come in
and names are used again. Which connector a removal is about is settled when it begins.

* **`Since`**: something has begun and has not ended since.
* **`Stands`**: who has a name: the last one that was added under it, unless the name has been removed since.
* **`Undoes`**: the removal by which an addition is undone. **`Settles`**: the moment when its connector has
  disconnected.
* **`Asks`**: what is asked for at a moment, from the history alone.
* **`removals_exact`**: a registry asks for this and nothing else, and says who has a name, whatever its history is. -/

namespace ServiceAccess.Registry

variable {ι : Type}

/-! ## What goes on since -/

/-- **Something has begun before a moment and has not ended since.** -/
def Since (begins ends : Nat → Prop) (k : Nat) : Prop := ∃ i < k, begins i ∧ ∀ j, i < j → j < k → ¬ ends j

theorem not_since_zero {begins ends : Nat → Prop} : ¬ Since begins ends 0 :=
  fun ⟨_, early, _⟩ => Nat.not_lt_zero _ early

/-- It goes on when it begins now, or when it does not end. -/
theorem since_succ {begins ends : Nat → Prop} {k : Nat} :
    Since begins ends (k + 1) ↔ begins k ∨ Since begins ends k ∧ ¬ ends k := by
  constructor
  · rintro ⟨i, early, begun, lasts⟩
    rcases Nat.lt_succ_iff_lt_or_eq.1 early with before | rfl
    · exact .inr ⟨⟨i, before, begun, fun j after early => lasts j after (Nat.lt_succ_of_lt early)⟩,
        lasts k before (Nat.lt_succ_self k)⟩
    · exact .inl begun
  · rintro (begun | ⟨⟨i, before, begun, lasts⟩, here⟩)
    · exact ⟨k, Nat.lt_succ_self k, begun, fun j after early => absurd (Nat.lt_succ_iff.1 early) (Nat.not_le.2 after)⟩
    · refine ⟨i, Nat.lt_succ_of_lt before, begun, fun j after early => ?_⟩
      rcases Nat.lt_succ_iff_lt_or_eq.1 early with earlier | rfl
      · exact lasts j after earlier
      · exact here

theorem since_succ_of_not {begins ends : Nat → Prop} {k : Nat} (begun : ¬ begins k) (ended : ¬ ends k) :
    Since begins ends (k + 1) ↔ Since begins ends k := by
  rw [since_succ, or_iff_right begun, and_iff_left ended]

/-- It goes on as long as it does not end. -/
theorem Since.mono {begins ends : Nat → Prop} {k k' : Nat} (h : Since begins ends k) (le : k ≤ k')
    (lasts : ∀ j, k ≤ j → j < k' → ¬ ends j) : Since begins ends k' := by
  induction k', le using Nat.le_induction with
  | base => exact h
  | succ k' le ih =>
    exact since_succ.2 (.inr ⟨ih fun j after early => lasts j after (Nat.lt_succ_of_lt early),
      lasts k' le (Nat.lt_succ_self k')⟩)

section

variable (typeOf : ι → String)

/-! ## One call -/

/-- Whether a removal begins. -/
def Event.isRemoval : Event ι → Bool
  | .removeConnector _ => true
  | _ => false

/-- What a registry asks for when something happens to it. -/
def asks (r : Registry ι) : Event ι → List (RemovalEffect ι)
  | .removeConnector name => (r.removeConnector name).2
  | .disconnected removal result => (r.disconnected removal result).2
  | _ => []

variable {typeOf} {r r' : Registry ι} {e : Event ι} {out : List (Except Failure (Event ι))}
  {name : String} {c : ι} {n : Nat}

theorem asks_of_some (live : r.instances.get? name = some c) :
    r.asks (.removeConnector name) = [.disconnect r.removed c] := by
  rw [asks, removeConnector, live]

theorem asks_of_none (nobody : r.instances.get? name = none) :
    r.asks (.removeConnector name) = [.settled r.removed (.ok false)] := by
  rw [asks, removeConnector, nobody]

theorem asks_of_pending (pending : r.removals.get? n = some c) (x : Except Failure Unit) :
    r.asks (.disconnected n x) = [.settled n (x.map fun _ => true)] := by
  rw [asks, disconnected, Table.contains_eq_isSome, pending]
  rfl

theorem asks_of_unknown (unknown : r.removals.get? n = none) (x : Except Failure Unit) :
    r.asks (.disconnected n x) = [] := by
  rw [asks, disconnected, Table.contains_eq_isSome, unknown]
  rfl

/-- **Who has a name after a call**: the one that has been added, or the one that had it, unless the name is
removed. -/
theorem Change.instances_iff (change : Change typeOf r e r' out) : r'.instances.get? name = some c ↔
    (e = .addConnector name c ∧ ∃ r', r.addConnector name (typeOf c) c = .ok r') ∨
      r.instances.get? name = some c ∧ e ≠ .removeConnector name := by
  cases change with
  | registered | disconnected | repeated | inconsistent => simp
  | @added name' c' free known =>
    rw [Table.get?_insert]
    split
    · next same =>
      subst same
      -- nobody has had the name before
      have nobody : r.instances.get? name = none := Table.get?_eq_none_iff.2 free
      constructor
      · rintro ⟨⟩
        exact .inl ⟨rfl, _, addConnector_eq_ok_iff.2 ⟨free, known, rfl⟩⟩
      · rintro (⟨⟨⟩, -⟩ | ⟨live, -⟩)
        · rfl
        · rw [nobody] at live
          cases live
    · next other => simp [Ne.symm other]
  | @removed name' c' live =>
    rw [Table.get?_erase]
    split
    · next same => simp [same]
    · next other => simp [Ne.symm other]
  | @absent name' nobody =>
    by_cases same : name' = name
    · simp [← same, nobody]
    · simp [same]
  -- a connector that is refused has not been added
  | @taken name' c' taken =>
    refine ⟨fun live => .inr ⟨live, by simp⟩, ?_⟩
    rintro (⟨⟨⟩, r', added⟩ | ⟨live, -⟩)
    · exact absurd taken (addConnector_eq_ok_iff.1 added).1
    · exact live
  | @unknown name' c' unknown =>
    refine ⟨fun live => .inr ⟨live, by simp⟩, ?_⟩
    rintro (⟨⟨⟩, r', added⟩ | ⟨live, -⟩)
    · rw [(addConnector_eq_ok_iff.1 added).2.1] at unknown
      cases unknown
    · exact live

/-- **Which removals have not ended after a call**: the one that has begun, if there is a connector to remove, or those
that had not, unless it is said that their connector has disconnected. -/
theorem Change.removals_iff (change : Change typeOf r e r' out) : (r'.removals.get? n).isSome = true ↔
    (n = r.removed ∧ ∃ name c, e = .removeConnector name ∧ r.instances.get? name = some c) ∨
      (r.removals.get? n).isSome = true ∧ ∀ x, e ≠ .disconnected n x := by
  cases change with
  | registered | added | repeated | inconsistent | taken | unknown => simp
  | @removed name' c' live =>
    rw [Table.get?_insert]
    split
    · next same => exact iff_of_true rfl (.inl ⟨same, name', c', rfl, live⟩)
    · next other => simp [other]
  | @absent name' nobody => simp [nobody]
  | @disconnected n' x =>
    rw [Table.get?_erase]
    split
    · next same => simp [same]
    · next other => simp [Ne.symm other]

/-- Removals are numbered as they begin. -/
theorem Change.removed_eq (change : Change typeOf r e r' out) :
    r'.removed = r.removed + if e.isRemoval then 1 else 0 := by
  cases change <;> rfl

/-! ## A history -/

variable (typeOf) (l : List (Event ι))

/-- The registry at a moment, before what happens then. -/
def before (k : Nat) : Registry ι := empty.after typeOf (l.take k)

/-- What is asked for at a moment. -/
def asked (k : Nat) : List (RemovalEffect ι) := l[k]?.elim [] (before typeOf l k).asks

/-- The number of the removal that begins at a moment: how many have begun before. -/
def number (k : Nat) : Nat := (l.take k).countP Event.isRemoval

/-- A name is removed at a moment. -/
def Removes (k : Nat) (name : String) : Prop := l[k]? = some (.removeConnector name)

/-- **A connector is added at a moment**, and it is not refused. -/
structure Adds (k : Nat) (name : String) (c : ι) : Prop where
  /-- This is what happens. -/
  here : l[k]? = some (.addConnector name c)
  /-- It is not refused. -/
  succeeds : ∃ r, (before typeOf l k).addConnector name (typeOf c) c = .ok r

/-- **Who has a name at a moment**: who has been added under it, unless it has been removed since. -/
def Stands (k : Nat) (name : String) (c : ι) : Prop := Since (Adds typeOf l · name c) (Removes l · name) k

/-- **An addition is undone by a removal**: the first one of the name that follows. -/
structure Undoes (i j : Nat) (name : String) (c : ι) : Prop where
  /-- The connector is added. -/
  adds : Adds typeOf l i name c
  /-- Its name is removed later. -/
  removes : Removes l j name
  /-- The removal is later. -/
  later : i < j
  /-- It is not removed between them. -/
  first : ∀ k, i < k → k < j → ¬ Removes l k name

/-- A removal is said to have disconnected its connector at a moment. -/
def Reports (k n : Nat) : Prop := ∃ x, l[k]? = some (.disconnected n x)

/-- **A connector has disconnected** that has been removed earlier. -/
structure Settles (j k : Nat) (x : Except Failure Unit) : Prop where
  /-- There is a connector to remove. -/
  undoes : ∃ i name c, Undoes typeOf l i j name c
  /-- It has disconnected. -/
  here : l[k]? = some (.disconnected (number l j) x)
  /-- It has been removed earlier. -/
  later : j < k
  /-- This has not been said before. -/
  first : ∀ m, j < m → m < k → ¬ Reports l m (number l j)

/-- **What is asked for at a moment**, from the history alone. -/
inductive Asks : Nat → List (RemovalEffect ι) → Prop
  /-- The removal that undoes an addition disconnects the connector. -/
  | undone {i j : Nat} {name : String} {c : ι} : Undoes typeOf l i j name c →
      Asks j [.disconnect (number l j) c]
  /-- A removal of a free name ends at once. -/
  | absent {j : Nat} {name : String} : Removes l j name → (∀ c, ¬ Stands typeOf l j name c) →
      Asks j [.settled (number l j) (.ok false)]
  /-- A removal ends when its connector has disconnected, and as this has ended. -/
  | settled {j k : Nat} {x : Except Failure Unit} : Settles typeOf l j k x →
      Asks k [.settled (number l j) (x.map fun _ => true)]
  /-- Nothing is asked for at other moments. -/
  | nothing {k : Nat} : (∀ name, ¬ Removes l k name) → (∀ j x, ¬ Settles typeOf l j k x) → Asks k []

variable {typeOf l} {i j k : Nat}

/-- The removal of a name undoes the addition of whoever has it. -/
theorem exists_undoes_iff : (∃ i, Undoes typeOf l i j name c) ↔ Stands typeOf l j name c ∧ Removes l j name := by
  constructor
  · rintro ⟨i, adds, removes, later, first⟩
    exact ⟨⟨i, later, adds, first⟩, removes⟩
  · rintro ⟨⟨i, later, adds, first⟩, removes⟩
    exact ⟨i, adds, removes, later, first⟩

theorem before_succ (here : l[k]? = some e) : before typeOf l (k + 1) = ((before typeOf l k).handle typeOf e).1 := by
  rw [before, List.take_add_one, here, after, Run.after_append]
  rfl

theorem number_succ (here : l[k]? = some e) : number l (k + 1) = number l k + if e.isRemoval then 1 else 0 := by
  rw [number, List.take_add_one, here, List.countP_append]
  simp [number, List.countP_cons]

theorem number_mono (le : j ≤ k) : number l j ≤ number l k := (List.take_sublist_take_left le).countP_le

/-- Removals that begin later have greater numbers. -/
theorem Removes.number_lt (h : Removes l j name) (later : j < k) : number l j < number l k := by
  have next : number l (j + 1) = number l j + 1 := number_succ h
  have after : number l (j + 1) ≤ number l k := number_mono later
  omega

/-- What the registry knows of its history. -/
structure Knows (typeOf : ι → String) (l : List (Event ι)) (k : Nat) : Prop where
  /-- How many removals have begun. -/
  removed : (before typeOf l k).removed = number l k
  /-- Who has a name. -/
  instances : ∀ name c, (before typeOf l k).instances.get? name = some c ↔ Stands typeOf l k name c
  /-- Which removals have not ended. -/
  removals : ∀ n, ((before typeOf l k).removals.get? n).isSome = true ↔
    Since (fun j => n = number l j ∧ ∃ i name c, Undoes typeOf l i j name c) (Reports l · n) k

/-- It stays with what has happened. -/
theorem Knows.succ (h : Knows typeOf l k) : Knows typeOf l (k + 1) := by
  cases here : l[k]? with
  | none =>
    -- the history is over
    have rest : l.take (k + 1) = l.take k := by rw [List.take_add_one, here, Option.toList_none, List.append_nil]
    have stays : before typeOf l (k + 1) = before typeOf l k := by rw [before, before, rest]
    have quiet (e : Event ι) : l[k]? ≠ some e := by simp [here]
    refine ⟨?_, fun name c => ?_, fun n => ?_⟩
    · rw [stays, h.removed, number, number, rest]
    · rw [stays, h.instances, Stands, Stands, since_succ_of_not]
      · exact fun adds => quiet _ adds.here
      · exact quiet _
    · rw [stays, h.removals, since_succ_of_not]
      · exact fun ⟨_, _, _, _, undoes⟩ => quiet _ undoes.removes
      · exact fun ⟨_, reports⟩ => quiet _ reports
  | some e =>
    have change : Change typeOf (before typeOf l k) e _ _ := handle_change _ e
    refine ⟨?_, fun name c => ?_, fun n => ?_⟩
    · rw [before_succ here, change.removed_eq, number_succ here, h.removed]
    · rw [before_succ here, change.instances_iff, h.instances, Stands, Stands, since_succ]
      refine or_congr ⟨?_, ?_⟩ (and_congr_right' ?_)
      · rintro ⟨rfl, succeeds⟩
        exact ⟨here, succeeds⟩
      · rintro ⟨here', succeeds⟩
        exact ⟨Option.some.inj (here.symm.trans here'), succeeds⟩
      · rw [Removes, here, ne_eq, Option.some_inj]
    · rw [before_succ here, change.removals_iff, h.removed, h.removals, since_succ]
      refine or_congr (and_congr_right' ?_) (and_congr_right' ?_)
      · constructor
        · rintro ⟨name, c, rfl, live⟩
          obtain ⟨i, undoes⟩ := exists_undoes_iff.2 ⟨(h.instances name c).1 live, here⟩
          exact ⟨i, name, c, undoes⟩
        · rintro ⟨i, name, c, undoes⟩
          obtain ⟨stands, removes⟩ := exists_undoes_iff.1 ⟨i, undoes⟩
          exact ⟨name, c, Option.some.inj (here.symm.trans removes), (h.instances name c).2 stands⟩
      · rw [Reports, here, not_exists]
        simp only [Option.some_inj, ne_eq]

theorem knows (k : Nat) : Knows typeOf l k := by
  induction k with
  | zero =>
    refine ⟨rfl, fun name c => ?_, fun n => ?_⟩
    · exact iff_of_false (by simp [before, empty]) not_since_zero
    · exact iff_of_false (by simp [before, empty]) not_since_zero
  | succ k ih => exact ih.succ

/-! ## What a registry asks for -/

/-- A name that nobody has is free. -/
theorem get?_of_free (free : ∀ c, ¬ Stands typeOf l k name c) : (before typeOf l k).instances.get? name = none :=
  Option.eq_none_iff_forall_ne_some.2 fun c live => free c (((knows k).instances name c).1 live)

/-- A connector of a registered type can be added when the name is free. -/
theorem adds_iff (here : l[k]? = some (.addConnector name c)) : Adds typeOf l k name c ↔
    (∀ c', ¬ Stands typeOf l k name c') ∧ (before typeOf l k).has (typeOf c) = true := by
  have free : name ∉ (before typeOf l k).instances.keys ↔ ∀ c', ¬ Stands typeOf l k name c' := by
    rw [Table.mem_keys_iff, not_exists]
    exact forall_congr' fun c' => not_congr ((knows k).instances name c')
  rw [← free]
  constructor
  · rintro ⟨-, r, added⟩
    exact ⟨(addConnector_eq_ok_iff.1 added).1, (addConnector_eq_ok_iff.1 added).2.1⟩
  · rintro ⟨unused, known⟩
    exact ⟨here, _, addConnector_eq_ok_iff.2 ⟨unused, known, rfl⟩⟩

/-- A removal that has not ended is one that waits for its connector. -/
theorem settles_of_pending {x : Except Failure Unit} (here : l[k]? = some (.disconnected n x))
    (pending : ((before typeOf l k).removals.get? n).isSome = true) : ∃ j, Settles typeOf l j k x := by
  obtain ⟨j, later, ⟨rfl, undoes⟩, first⟩ := ((knows k).removals n).1 pending
  exact ⟨j, undoes, here, later, first⟩

/-- **A registry asks for what its history says.** -/
theorem Asks.asked {out : List (RemovalEffect ι)} (h : Asks typeOf l k out) : asked typeOf l k = out := by
  cases h with
  | undone undoes =>
    obtain ⟨stands, removes⟩ := exists_undoes_iff.1 ⟨_, undoes⟩
    rw [Registry.asked, removes, Option.elim_some, asks_of_some (((knows k).instances _ _).2 stands), (knows k).removed]
  | absent removes free =>
    rw [Registry.asked, removes, Option.elim_some, asks_of_none (get?_of_free free), (knows k).removed]
  | settled settles =>
    have pending := ((knows k).removals _).2 ⟨_, settles.later, ⟨rfl, settles.undoes⟩, settles.first⟩
    obtain ⟨c, pending⟩ := Option.isSome_iff_exists.1 pending
    rw [Registry.asked, settles.here, Option.elim_some, asks_of_pending pending]
  | nothing quiet waiting =>
    rw [Registry.asked]
    cases here : l[k]? with
    | none => rfl
    | some e =>
      cases e with
      | register | addConnector => rfl
      | removeConnector name => exact absurd here (quiet name)
      | disconnected n x =>
        rw [Option.elim_some, asks_of_unknown]
        refine Option.eq_none_iff_forall_ne_some.2 fun c pending => ?_
        obtain ⟨j, settles⟩ := settles_of_pending here (Option.isSome_iff_exists.2 ⟨c, pending⟩)
        exact waiting j x settles

/-- The history says what is asked for at every moment. -/
theorem exists_asks (typeOf : ι → String) (l : List (Event ι)) (k : Nat) : ∃ out, Asks typeOf l k out := by
  by_cases removes : ∃ name, Removes l k name
  · obtain ⟨name, removes⟩ := removes
    by_cases stands : ∃ c, Stands typeOf l k name c
    · obtain ⟨c, stands⟩ := stands
      obtain ⟨i, undoes⟩ := exists_undoes_iff.2 ⟨stands, removes⟩
      exact ⟨_, .undone undoes⟩
    · exact ⟨_, .absent removes (not_exists.1 stands)⟩
  · by_cases settles : ∃ j x, Settles typeOf l j k x
    · obtain ⟨j, x, settles⟩ := settles
      exact ⟨_, .settled settles⟩
    · exact ⟨_, .nothing (not_exists.1 removes) fun j x here => settles ⟨j, x, here⟩⟩

theorem asked_iff {out : List (RemovalEffect ι)} : asked typeOf l k = out ↔ Asks typeOf l k out := by
  constructor
  · rintro rfl
    obtain ⟨out, asks⟩ := exists_asks typeOf l k
    rwa [asks.asked]
  · exact Asks.asked

/-! ## Additions and removals -/

variable {i' j' : Nat} {name' : String} {c' : ι}

/-- An addition is undone once. -/
theorem Undoes.removal_unique (h : Undoes typeOf l i j name c) (h' : Undoes typeOf l i j' name' c') : j = j' := by
  have same := h.adds.here.symm.trans h'.adds.here
  obtain ⟨rfl, rfl⟩ := Event.addConnector.inj (Option.some.inj same)
  rcases Nat.lt_trichotomy j j' with early | rfl | late
  · exact absurd h.removes (h'.first j h.later early)
  · rfl
  · exact absurd h'.removes (h.first j' h'.later late)

/-- A removal undoes one addition: a second one would have been refused. -/
theorem Undoes.addition_unique (h : Undoes typeOf l i j name c) (h' : Undoes typeOf l i' j name' c') : i = i' := by
  have apart {i i' : Nat} {c c' : ι} (h : Undoes typeOf l i j name c) (h' : Undoes typeOf l i' j name c') :
      ¬ i < i' := by
    intro early
    have stands : Stands typeOf l i' name c :=
      ⟨i, early, h.adds, fun m after before => h.first m after (before.trans h'.later)⟩
    exact ((adds_iff h'.adds.here).1 h'.adds).1 c stands
  obtain rfl := Event.removeConnector.inj (Option.some.inj (h.removes.symm.trans h'.removes))
  exact Nat.le_antisymm (Nat.not_lt.1 (apart h' h)) (Nat.not_lt.1 (apart h h'))

/-- Removals have numbers of their own. -/
theorem Removes.number_inj (h : Removes l j name) (h' : Removes l j' name') : number l j = number l j' ↔ j = j' := by
  refine ⟨fun same => ?_, congrArg _⟩
  rcases Nat.lt_trichotomy j j' with early | rfl | late
  · exact absurd same (h.number_lt early).ne
  · rfl
  · exact absurd same (h'.number_lt late).ne'

/-- A name is free when its removal has begun. -/
theorem Removes.not_stands (h : Removes l j name) (c : ι) : ¬ Stands typeOf l (j + 1) name c := by
  rw [Stands, since_succ]
  rintro (adds | ⟨-, kept⟩)
  · exact nomatch h.symm.trans adds.here
  · exact kept h

variable (typeOf l) in
/-- **A registry that removes what stands.** -/
structure RemovesWhatStands : Prop where
  /-- A name is that of the connector which has been added under it, unless it has been removed since. -/
  named : ∀ k name c, (before typeOf l k).getConnector name = .ok c ↔ Stands typeOf l k name c
  /-- All other names are unknown. -/
  unknown : ∀ k name, (∀ c, ¬ Stands typeOf l k name c) →
    (before typeOf l k).getConnector name = .error (.unknownConnector name)
  /-- A connector of a registered type is added exactly when the name is free. -/
  adds : ∀ k name c, l[k]? = some (.addConnector name c) → (Adds typeOf l k name c ↔
    (∀ c', ¬ Stands typeOf l k name c') ∧ (before typeOf l k).has (typeOf c) = true)
  /-- An addition is undone by one removal at most, and a removal undoes one addition at most. -/
  once : ∀ i i' j j' name name' c c', Undoes typeOf l i j name c → Undoes typeOf l i' j' name' c' →
    (i = i' ↔ j = j')
  /-- The name is free as soon as the removal has begun. -/
  free : ∀ j name c, Removes l j name → ¬ Stands typeOf l (j + 1) name c
  /-- Whoever has a name keeps it until the next removal of it. -/
  lasts : ∀ k k' name c, Stands typeOf l k name c → k ≤ k' → (∀ j, k ≤ j → j < k' → ¬ Removes l j name) →
    Stands typeOf l k' name c
  /-- Removals have numbers of their own. -/
  numbered : ∀ j j' name name', Removes l j name → Removes l j' name' → (number l j = number l j' ↔ j = j')
  /-- This is asked for. -/
  asked : ∀ k out, asked typeOf l k = out ↔ Asks typeOf l k out

/-- **Removals, whatever happens meanwhile.** In every history of a registry each removal is about the one connector
that stands when it begins, disconnects this one once and ends as this has ended. Names are free at once, and nothing
that happens to a name later matters for a removal that waits, nor does the removal matter for the name. -/
theorem removals_exact (typeOf : ι → String) (l : List (Event ι)) : RemovesWhatStands typeOf l where
  named k name c := by
    rw [← (knows k).instances, getConnector]
    cases (before typeOf l k).instances.get? name <;> simp
  unknown k name free := by rw [getConnector, get?_of_free free]
  adds k name c here := adds_iff here
  once := by
    rintro i i' j j' name name' c c' undoes undoes'
    constructor
    · rintro rfl
      exact undoes.removal_unique undoes'
    · rintro rfl
      exact undoes.addition_unique undoes'
  free j name c removes := removes.not_stands c
  lasts k k' name c stands le kept := stands.mono le kept
  numbered j j' name name' removes removes' := removes.number_inj removes'
  asked k out := asked_iff

end

end ServiceAccess.Registry
