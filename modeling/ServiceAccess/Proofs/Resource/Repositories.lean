import ServiceAccess.Proofs.Credentials.Pattern
import ServiceAccess.Proofs.Resource.Shapes
import ServiceAccess.Resource.Repository

/-! # What names a container repository

The pattern of repository URIs has an optional scheme in front and takes a path that may hold anything. It does not say
by itself where the scheme ends, or which slash comes before the path. Still a text is divided in one way only: a host is
followed by a colon only for the digits of a port, so that a scheme is not one, and there is no slash in it.

* **`IsReference`**: a host with or without a port, a slash and a path, behind a scheme or none.
* **`divides_uriPattern_iff`**: the pattern divides references, and as they are.
* **`repositories_exact`**: what is accepted, by which shape, and what it stands for. -/

namespace ServiceAccess

/-- Every character of joined texts is the separator or stands in one of them. -/
theorem Regex.mem_intercalate {c d : Char} {parts : List (List Char)} (here : d ∈ [c].intercalate parts) :
    d = c ∨ ∃ part ∈ parts, d ∈ part := by
  induction parts with
  | nil => simp [List.intercalate] at here
  | cons a parts ih =>
    by_cases last : parts = []
    · subst last
      exact .inr ⟨a, List.mem_cons_self, by simpa [List.intercalate] using here⟩
    · rw [intercalate_cons c a last, List.mem_append, List.mem_cons] at here
      rcases here with first | separator | later
      · exact .inr ⟨a, List.mem_cons_self, first⟩
      · exact .inl separator
      · exact (ih later).imp_right fun ⟨part, among, within⟩ => ⟨part, List.mem_cons_of_mem _ among, within⟩

namespace Repository

variable {cs rest registry path : List Char}

/-! ## References -/

/-- A label: letters, digits and dashes, one at least. -/
def IsLabel (cs : List Char) : Prop := cs ≠ [] ∧ ∀ c ∈ cs, c.isAlphanum = true ∨ c = '-'

/-- A host: labels, joined by dots. -/
def IsHost (cs : List Char) : Prop :=
  ∃ labels, labels ≠ [] ∧ (∀ label ∈ labels, IsLabel label) ∧ cs = ['.'].intercalate labels

/-- A port: a colon and digits, one at least. -/
def IsPort (cs : List Char) : Prop := ∃ digits, digits ≠ [] ∧ (∀ c ∈ digits, c.isDigit = true) ∧ cs = ':' :: digits

/-- A registry: a host with or without a port. -/
def IsRegistry (cs : List Char) : Prop := ∃ host, IsHost host ∧ ∃ port, (IsPort port ∨ port = []) ∧ host ++ port = cs

/-- A path: characters that do not end a line, one at least. -/
def IsPath (cs : List Char) : Prop := cs ≠ [] ∧ ∀ c ∈ cs, c ∉ ['\n', '\r', '\u2028', '\u2029']

/-- **What is left of a text without the scheme**, if it has one. -/
inductive Schemeless : List Char → List Char → Prop
  /-- Behind a scheme without encryption. -/
  | http (rest : List Char) : Schemeless ("http://".toList ++ rest) rest
  /-- Behind a scheme with encryption. -/
  | https (rest : List Char) : Schemeless ("https://".toList ++ rest) rest
  /-- The whole of a text without a scheme. -/
  | none {cs : List Char} : ¬ "http://".toList <+: cs → ¬ "https://".toList <+: cs → Schemeless cs cs

/-- **A reference**: behind a scheme or none, a registry, the first slash, and a path. -/
structure IsReference (cs registry path : List Char) : Prop where
  /-- This is all that there is behind the scheme. -/
  whole : Schemeless cs (registry ++ '/' :: path)
  /-- The slash is the first one. -/
  first : '/' ∉ registry
  /-- Before it stands a registry. -/
  isRegistry : IsRegistry registry
  /-- And behind it a path. -/
  isPath : IsPath path

/-- A text is the same without its scheme, whichever way it is taken off. -/
theorem Schemeless.unique {rest' : List Char} (h : Schemeless cs rest) (h' : Schemeless cs rest') : rest = rest' := by
  -- the two schemes differ in their fifth characters
  have apart : ∀ rest rest' : List Char, "http://".toList ++ rest ≠ "https://".toList ++ rest' := by
    intro rest rest' same
    have fifth := congrArg (fun cs => cs[4]?) same
    simp at fifth
  generalize whole : cs = text at h'
  cases h with
  | http =>
    cases h' with
    | http => exact List.append_cancel_left whole
    | https => exact absurd whole (apart _ _)
    | none http => exact absurd ⟨rest, whole⟩ http
  | https =>
    cases h' with
    | http => exact absurd whole.symm (apart _ _)
    | https => exact List.append_cancel_left whole
    | none _ https => exact absurd ⟨rest, whole⟩ https
  | none http https =>
    cases h' with
    | http => exact absurd ⟨rest', whole.symm⟩ http
    | https => exact absurd ⟨rest', whole.symm⟩ https
    | none => exact whole

/-- Every text is something without its scheme. -/
theorem exists_schemeless (cs : List Char) : ∃ rest, Schemeless cs rest := by
  by_cases http : "http://".toList <+: cs
  · obtain ⟨rest, rfl⟩ := http
    exact ⟨rest, .http rest⟩
  by_cases https : "https://".toList <+: cs
  · obtain ⟨rest, rfl⟩ := https
    exact ⟨rest, .https rest⟩
  exact ⟨cs, .none http https⟩

/-- What is left of a text is its end. -/
theorem Schemeless.suffix (h : Schemeless cs rest) : rest <:+ cs := by
  cases h with
  | http | https => exact List.suffix_append ..
  | none => exact List.suffix_rfl

/-- A text is cut at its first slash in one way. -/
theorem cut_unique {registry' path' : List Char} (same : registry ++ '/' :: path = registry' ++ '/' :: path')
    (plain : '/' ∉ registry) (plain' : '/' ∉ registry') : registry = registry' ∧ path = path' := by
  induction registry generalizing registry' with
  | nil =>
    cases registry' with
    | nil => exact ⟨rfl, (List.cons.inj same).2⟩
    | cons c registry' =>
      obtain ⟨rfl, -⟩ := List.cons.inj same
      exact absurd List.mem_cons_self plain'
  | cons c registry ih =>
    cases registry' with
    | nil =>
      obtain ⟨rfl, -⟩ := List.cons.inj same
      exact absurd List.mem_cons_self plain
    | cons c' registry' =>
      obtain ⟨rfl, tails⟩ := List.cons.inj same
      obtain ⟨rfl, rfl⟩ := ih tails (fun later => plain (List.mem_cons_of_mem _ later))
        fun later => plain' (List.mem_cons_of_mem _ later)
      exact ⟨rfl, rfl⟩

/-- A text is one reference at most. -/
theorem IsReference.unique {registry' path' : List Char} (h : IsReference cs registry path)
    (h' : IsReference cs registry' path') : registry = registry' ∧ path = path' :=
  cut_unique (h.whole.unique h'.whole) h.first h'.first

/-! ## Characters of a registry -/

/-- A label consists of letters, digits and dashes. -/
theorem IsLabel.not_mem (h : IsLabel cs) {c : Char} (plain : c.isAlphanum = false) (dash : c ≠ '-') : c ∉ cs := by
  intro here
  rcases h.2 c here with named | named
  · rw [plain] at named
    cases named
  · exact dash named

/-- In a host there are dots as well. -/
theorem IsHost.not_mem (h : IsHost cs) {c : Char} (plain : c.isAlphanum = false) (dash : c ≠ '-') (dot : c ≠ '.') :
    c ∉ cs := by
  obtain ⟨labels, -, all, rfl⟩ := h
  intro here
  rcases Regex.mem_intercalate here with separator | ⟨label, among, within⟩
  · exact dot separator
  · exact (all label among).not_mem plain dash within

/-- There is no slash in a registry. -/
theorem IsRegistry.slash_not_mem (h : IsRegistry cs) : '/' ∉ cs := by
  obtain ⟨host, isHost, port, isPort, rfl⟩ := h
  rw [List.mem_append, not_or]
  refine ⟨isHost.not_mem (by decide) (by decide) (by decide), ?_⟩
  rcases isPort with ⟨digits, -, all, rfl⟩ | rfl
  · rw [List.mem_cons, not_or]
    exact ⟨by decide, fun here => absurd (all _ here) (by decide)⟩
  · exact List.not_mem_nil

/-- A registry does not end with a colon. -/
theorem IsRegistry.getLast?_ne_colon (h : IsRegistry cs) : cs.getLast? ≠ some ':' := by
  obtain ⟨host, isHost, port, isPort, rfl⟩ := h
  intro last
  rcases isPort with ⟨digits, some, all, rfl⟩ | rfl
  · rw [List.getLast?_append_of_ne_nil _ (List.cons_ne_nil _ _), List.getLast?_cons_of_ne_nil some] at last
    exact absurd (all _ (List.mem_of_getLast? last)) (by decide)
  · rw [List.append_nil] at last
    exact isHost.not_mem (by decide) (by decide) (by decide) (List.mem_of_getLast? last)

/-- **A scheme is no registry.** Its colon would have to be followed by a port. -/
theorem IsRegistry.not_prefix (h : IsRegistry registry) (lead : List Char) (plain : '/' ∉ lead) :
    ¬ lead ++ "://".toList <+: registry ++ '/' :: path := by
  rintro ⟨rest, same⟩
  have cut : (lead ++ [':']) ++ '/' :: '/' :: rest = registry ++ '/' :: path := by
    rw [← same]
    simp
  obtain ⟨rfl, -⟩ := cut_unique cut (by simp [plain]) h.slash_not_mem
  exact h.getLast?_ne_colon (by simp)

/-- Without the scheme, a reference is one still. -/
theorem IsReference.of_canonical (h : IsReference cs registry path) :
    IsReference (registry ++ '/' :: path) registry path where
  whole := .none (h.isRegistry.not_prefix "http".toList (by decide)) (h.isRegistry.not_prefix "https".toList (by decide))
  first := h.first
  isRegistry := h.isRegistry
  isPath := h.isPath

/-! ## The languages of the patterns -/

/-- Letters, digits and dashes. -/
theorem isNameChar_iff {c : Char} : isNameChar c = true ↔ c.isAlphanum = true ∨ c = '-' := by
  have upper : (decide ('A' ≤ c) && decide (c ≤ 'Z')) = c.isUpper := (Bool.decide_and ..).symm
  have alphanum : c.isAlphanum = (c.isUpper || c.isLower || c.isDigit) := rfl
  rw [isNameChar, upper, alphanum, Bool.or_eq_true, beq_iff_eq, Bool.or_comm (Text.isLower c)]
  rfl

/-- The characters that end a line. -/
theorem not_isLineEnd_iff {c : Char} : (!Text.isLineEnd c) = true ↔ c ∉ ['\n', '\r', '\u2028', '\u2029'] := by
  have code (d : Char) : c.toNat = d.toNat ↔ c = d := Char.toNat_inj
  simp only [Text.isLineEnd, Bool.not_or, Bool.and_eq_true, Bool.not_eq_true', beq_eq_false_iff_ne, ne_eq,
    List.mem_cons, List.not_mem_nil, or_false, not_or, and_assoc, ← code '\u2028', ← code '\u2029']
  rfl

theorem mem_label_iff : cs ∈ label.language ↔ IsLabel cs := by
  simp only [label, Regex.mem_plus_one_iff, isNameChar_iff, IsLabel]

theorem mem_host_iff : cs ∈ host.language ↔ IsHost cs := by
  rw [host, Regex.mem_separated_iff (c := '.') rfl]
  simp only [mem_label_iff, IsHost]

theorem mem_port_iff : cs ∈ port.language ↔ IsPort cs := by
  simp only [port, Regex.mem_seq_iff, Regex.mem_word_iff, Regex.mem_plus_one_iff]
  constructor
  · rintro ⟨-, rfl, digits, ⟨some, all⟩, rfl⟩
    exact ⟨digits, some, all, rfl⟩
  · rintro ⟨digits, some, all, rfl⟩
    exact ⟨_, rfl, digits, ⟨some, all⟩, rfl⟩

theorem mem_registry_iff : cs ∈ (Regex.seq host (.opt port)).language ↔ IsRegistry cs := by
  simp only [Regex.mem_seq_iff, Regex.mem_opt_iff, mem_host_iff, mem_port_iff, IsRegistry]

theorem mem_path_iff : cs ∈ Repository.path.language ↔ IsPath cs := by
  simp only [Repository.path, Regex.mem_plus_one_iff, not_isLineEnd_iff, IsPath]

/-- **The pattern of URIs divides references, and as they are.** -/
theorem divides_uriPattern_iff {groups : List (List Char)} : Regex.Divides uriPattern cs groups ↔
    ∃ registry path, IsReference cs registry path ∧ groups = [registry, path] := by
  simp only [uriPattern, Regex.divides_skip_iff, Regex.divides_group_iff, Regex.divides_nil_iff, Regex.mem_opt_iff,
    Regex.mem_word_iff, Pattern.mem_webLead_iff, mem_registry_iff, mem_path_iff]
  constructor
  · rintro ⟨lead, scheme, -, ⟨registry, isRegistry, -, -, ⟨-, rfl, -, ⟨path, isPath, -, -, ⟨rfl, rfl⟩, rfl, rfl⟩, rfl⟩,
      rfl, rfl⟩, rfl⟩
    refine ⟨registry, path, ⟨?_, isRegistry.slash_not_mem, isRegistry, isPath⟩, rfl⟩
    rw [List.append_nil]
    rcases scheme with (rfl | rfl) | rfl
    · exact .http _
    · exact .https _
    · -- what looks like a scheme would be a registry with nothing behind the colon
      exact .none (isRegistry.not_prefix "http".toList (by decide)) (isRegistry.not_prefix "https".toList (by decide))
  · rintro ⟨registry, path, ⟨whole, -, isRegistry, isPath⟩, rfl⟩
    have behind : ∃ lead, ((lead = "http://".toList ∨ lead = "https://".toList) ∨ lead = []) ∧
        lead ++ (registry ++ '/' :: path) = cs := by
      generalize registry ++ '/' :: path = rest at whole
      cases whole with
      | http => exact ⟨_, .inl (.inl rfl), rfl⟩
      | https => exact ⟨_, .inl (.inr rfl), rfl⟩
      | none => exact ⟨_, .inr rfl, rfl⟩
    obtain ⟨lead, scheme, rfl⟩ := behind
    refine ⟨lead, scheme, _, ⟨registry, isRegistry, _, _, ⟨_, rfl, _, ⟨path, isPath, [], [], ⟨rfl, rfl⟩, rfl, rfl⟩,
      rfl⟩, rfl, rfl⟩, ?_⟩
    rw [List.append_nil]
    rfl

/-- The pattern of URIs divides a text in one way at most. -/
theorem divides_uriPattern_unique (groups groups' : List (List Char)) (h : Regex.Divides uriPattern cs groups)
    (h' : Regex.Divides uriPattern cs groups') : groups = groups' := by
  obtain ⟨registry, path, reference, rfl⟩ := divides_uriPattern_iff.1 h
  obtain ⟨registry', path', reference', rfl⟩ := divides_uriPattern_iff.1 h'
  obtain ⟨rfl, rfl⟩ := reference.unique reference'
  rfl

/-- The pattern of bare names takes a label as a whole. -/
theorem divides_namePattern_iff {groups : List (List Char)} :
    Regex.Divides namePattern cs groups ↔ IsLabel cs ∧ groups = [] := by
  simp only [namePattern, Regex.divides_skip_iff, Regex.divides_nil_iff, mem_label_iff]
  constructor
  · rintro ⟨name, isLabel, -, ⟨rfl, rfl⟩, rfl⟩
    rw [List.append_nil]
    exact ⟨isLabel, rfl⟩
  · rintro ⟨isLabel, rfl⟩
    exact ⟨cs, isLabel, [], ⟨rfl, rfl⟩, List.append_nil _⟩

/-! ## Shapes -/

/-- What a reference stands for. -/
def reference (registry path : List Char) : Recognition :=
  ⟨String.ofList (registry ++ '/' :: path), .ofList [("registry", some (String.ofList registry))]⟩

/-- What a bare name stands for. -/
def bareName (cs : List Char) : Recognition := ⟨String.ofList cs, .ofList [("registry", none)]⟩

/-- The shape of URIs recognises references. -/
theorem recognise_uri_iff {name format : String} {result : Except Failure Recognition} :
    (Shape.ofPattern name format uriPattern ofUri).recognise cs = some result ↔
      ∃ registry path, IsReference cs registry path ∧ result = .ok (reference registry path) := by
  have named (registry path : List Char) :
      ofUri ⟨String.ofList cs, [registry, path].map String.ofList⟩ = reference registry path := by
    simp [ofUri, reference, Regex.Match.group, String.ofList_append, String.append_assoc]
  rw [Shape.recognise_ofPattern_iff divides_uriPattern_unique]
  simp only [divides_uriPattern_iff]
  constructor
  · rintro ⟨-, ⟨registry, path, isReference, rfl⟩, rfl⟩
    exact ⟨registry, path, isReference, by rw [named]⟩
  · rintro ⟨registry, path, isReference, rfl⟩
    exact ⟨_, ⟨registry, path, isReference, rfl⟩, by rw [named]⟩

/-- The shape of bare names recognises labels. -/
theorem recognise_name_iff {name format : String} {result : Except Failure Recognition} :
    (Shape.ofPattern name format namePattern ofName).recognise cs = some result ↔
      IsLabel cs ∧ result = .ok (bareName cs) := by
  rw [Shape.recognise_ofPattern_iff fun _ _ h h' => by
    rw [(divides_namePattern_iff.1 h).2, (divides_namePattern_iff.1 h').2]]
  simp only [divides_namePattern_iff]
  constructor
  · rintro ⟨-, ⟨isLabel, rfl⟩, rfl⟩
    exact ⟨isLabel, rfl⟩
  · rintro ⟨isLabel, rfl⟩
    exact ⟨[], ⟨isLabel, rfl⟩, rfl⟩

/-- A bare name has no slash, so it is no reference. -/
theorem IsLabel.not_isReference (h : IsLabel cs) (registry path : List Char) : ¬ IsReference cs registry path := by
  intro isReference
  have slash : '/' ∈ cs := isReference.whole.suffix.subset (List.mem_append_right _ List.mem_cons_self)
  exact h.not_mem (by decide) (by decide) slash

/-- **The two shapes never match the same text.** -/
theorem exclusive : resolver.Exclusive := by
  refine List.pairwise_pair.2 fun cs => ?_
  by_cases isLabel : IsLabel cs
  · refine .inl (Option.eq_none_iff_forall_ne_some.2 fun result recognised => ?_)
    obtain ⟨registry, path, isReference, -⟩ := recognise_uri_iff.1 recognised
    exact isLabel.not_isReference registry path isReference
  · refine .inr (Option.eq_none_iff_forall_ne_some.2 fun result recognised => ?_)
    exact isLabel (recognise_name_iff.1 recognised).1

variable {raw : String}

/-- **What is accepted is a reference or a bare name.** -/
theorem parse_eq_ok_iff {id : ResourceId} : resolver.parse raw = .ok id ↔
    (∃ registry path, IsReference raw.toList registry path ∧ id = ⟨raw, String.ofList (registry ++ '/' :: path),
      .ofList [("registry", some (String.ofList registry))]⟩) ∨
    (IsLabel raw.toList ∧ id = ⟨raw, raw, .ofList [("registry", none)]⟩) := by
  rw [exclusive.parse_eq_ok_iff]
  simp only [resolver, List.mem_cons, List.not_mem_nil, or_false, exists_eq_or_imp, exists_eq_left, recognise_uri_iff,
    recognise_name_iff, Except.ok.injEq]
  refine or_congr ⟨?_, ?_⟩ ⟨?_, ?_⟩
  · rintro ⟨-, ⟨registry, path, isReference, rfl⟩, rfl⟩
    exact ⟨registry, path, isReference, rfl⟩
  · rintro ⟨registry, path, isReference, rfl⟩
    exact ⟨_, ⟨registry, path, isReference, rfl⟩, rfl⟩
  · rintro ⟨-, ⟨isLabel, rfl⟩, rfl⟩
    exact ⟨isLabel, by rw [bareName, String.ofList_toList]⟩
  · rintro ⟨isLabel, rfl⟩
    exact ⟨_, ⟨isLabel, rfl⟩, by rw [bareName, String.ofList_toList]⟩

/-- **Everything else is refused**, with the resource type, the text and the accepted formats. -/
theorem parse_eq_error_iff {failure : Failure} : resolver.parse raw = .error failure ↔
    (∀ registry path, ¬ IsReference raw.toList registry path) ∧ ¬ IsLabel raw.toList ∧
      failure = .invalidResourceId "docker-registry" raw resolver.formats := by
  have lenient : ∀ s ∈ resolver.shapes, ∀ cs failure, s.recognise cs ≠ some (.error failure) := by
    simp only [resolver, List.mem_cons, List.not_mem_nil, or_false]
    rintro - (rfl | rfl) <;> exact Shape.recognise_ofPattern_ne_error
  rw [Resolver.parse_eq_error_iff lenient, ← and_assoc]
  refine and_congr_left fun _ => ?_
  simp only [ne_eq, parse_eq_ok_iff, not_or, not_exists, not_and]
  constructor
  · intro none
    exact ⟨fun registry path isReference => (none _).1 registry path isReference rfl, fun isLabel => (none _).2 isLabel rfl⟩
  · rintro ⟨noReference, noLabel⟩ id
    exact ⟨fun registry path isReference => absurd isReference (noReference registry path),
      fun isLabel => absurd isLabel noLabel⟩

/-- A text is matched by the shape of URIs when it is a reference. -/
theorem matching_uri_iff : resolver.matching raw = ["repository URI"] ↔
    ∃ registry path, IsReference raw.toList registry path := by
  rw [exclusive.matching_eq_singleton_iff]
  simp [resolver, Option.isSome_iff_exists, recognise_uri_iff]

/-- A text is matched by the shape of bare names when it is a label. -/
theorem matching_name_iff : resolver.matching raw = ["Docker Hub repository name"] ↔ IsLabel raw.toList := by
  rw [exclusive.matching_eq_singleton_iff]
  simp [resolver, Option.isSome_iff_exists, recognise_name_iff]

/-- **What names a container repository.** Behind the scheme of a text, if it has one, there is one part of it. A text is
accepted as a URI exactly when this part is a registry, a slash and a path, and stands for the part and the registry. It
is accepted as a bare name exactly when it is a label, and stands for itself. No text is matched by both shapes, and all
others are refused. The pattern of URIs has one division for a reference, whichever way it is tried, and none for any
other text. -/
theorem repositories_exact (raw : String) :
    (∃! rest, Schemeless raw.toList rest) ∧
    (∀ id, resolver.parse raw = .ok id ↔
      (∃ registry path, IsReference raw.toList registry path ∧ id = ⟨raw, String.ofList (registry ++ '/' :: path),
        .ofList [("registry", some (String.ofList registry))]⟩) ∨
      (IsLabel raw.toList ∧ id = ⟨raw, raw, .ofList [("registry", none)]⟩)) ∧
    (∀ failure, resolver.parse raw = .error failure ↔
      (∀ registry path, ¬ IsReference raw.toList registry path) ∧ ¬ IsLabel raw.toList ∧
        failure = .invalidResourceId "docker-registry" raw resolver.formats) ∧
    (resolver.matching raw = ["repository URI"] ↔ ∃ registry path, IsReference raw.toList registry path) ∧
    (resolver.matching raw = ["Docker Hub repository name"] ↔ IsLabel raw.toList) ∧
    (resolver.matching raw).length ≤ 1 ∧
    (∀ groups, Regex.Divides uriPattern raw.toList groups ↔
      ∃ registry path, IsReference raw.toList registry path ∧ groups = [registry, path]) ∧
    ((∃ groups, Regex.Divides uriPattern raw.toList groups) ↔
      ∃! groups, Regex.Divides uriPattern raw.toList groups) := by
  obtain ⟨rest, schemeless⟩ := exists_schemeless raw.toList
  refine ⟨⟨rest, schemeless, fun rest' other => other.unique schemeless⟩, fun id => parse_eq_ok_iff,
    fun failure => parse_eq_error_iff, matching_uri_iff, matching_name_iff, exclusive.length_matching raw,
    fun groups => divides_uriPattern_iff, ?_, ExistsUnique.exists⟩
  rintro ⟨groups, divides⟩
  exact ⟨groups, divides, fun groups' other => divides_uriPattern_unique groups' groups other divides⟩

end Repository

end ServiceAccess
