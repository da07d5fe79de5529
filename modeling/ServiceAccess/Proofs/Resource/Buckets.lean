import ServiceAccess.Proofs.Resource.Shapes
import ServiceAccess.Resource.Bucket

/-! # What names a storage bucket

A bucket is named in three shapes, one of which may end with a slash. No bucket name has a slash or a colon in it, so
that none looks like another shape or takes the slash at the end.

* **`IsBucketName`**: the names of buckets. **`mem_bucketName_iff`**: they are what the expression matches.
* **`Names`**: how a text names a bucket, and by which shape. **`Names.unique`**: it names one in one shape at most.
* **`buckets_exact`**: what is accepted, by which shape, and what it stands for. -/

namespace ServiceAccess.Bucket

variable {cs : List Char}

/-! ## Names -/

/-- **A bucket name**: 3 to 63 small letters, digits, dots and dashes, with a letter or digit at both ends. -/
structure IsBucketName (cs : List Char) : Prop where
  /-- There are 3 characters at least. -/
  atLeast : 3 ≤ cs.length
  /-- There are 63 at most. -/
  atMost : cs.length ≤ 63
  /-- They are small letters, digits, dots and dashes. -/
  inner : ∀ c ∈ cs, (c.isLower = true ∨ c.isDigit = true) ∨ c = '.' ∨ c = '-'
  /-- The first one is a letter or digit. -/
  first : ∀ c, cs.head? = some c → c.isLower = true ∨ c.isDigit = true
  /-- And so is the last one. -/
  last : ∀ c, cs.getLast? = some c → c.isLower = true ∨ c.isDigit = true

theorem isEnd_iff {c : Char} : isEnd c = true ↔ c.isLower = true ∨ c.isDigit = true := Bool.or_eq_true_iff ..

theorem isInner_iff {c : Char} : isInner c = true ↔ (c.isLower = true ∨ c.isDigit = true) ∨ c = '.' ∨ c = '-' := by
  simp only [isInner, Bool.or_eq_true, isEnd_iff, beq_iff_eq, or_assoc]

/-- **The expression of bucket names matches them**: with its two ends, a repetition of 1 to 61 characters makes 3 to
63. -/
theorem mem_bucketName_iff : cs ∈ bucketName.language ↔ IsBucketName cs := by
  simp only [bucketName, Regex.mem_seq_iff, Regex.mem_one_iff, Regex.mem_between_one_iff (show 1 ≤ 61 by decide),
    isEnd_iff, isInner_iff]
  constructor
  · rintro ⟨-, ⟨a, first, rfl⟩, -, ⟨mid, ⟨atLeast, atMost, inner⟩, -, ⟨z, last, rfl⟩, rfl⟩, rfl⟩
    refine ⟨?_, ?_, ?_, ?_, ?_⟩
    · simp only [List.length_append, List.length_singleton]
      omega
    · simp only [List.length_append, List.length_singleton]
      omega
    · simp only [List.mem_append, List.mem_singleton]
      rintro c (rfl | here | rfl)
      · exact .inl first
      · exact inner c here
      · exact .inl last
    · rintro c head
      obtain rfl := Option.some.inj head
      exact first
    · rintro c tail
      rw [← List.append_assoc, List.getLast?_concat] at tail
      obtain rfl := Option.some.inj tail
      exact last
  · rintro ⟨atLeast, atMost, inner, first, last⟩
    -- a text of two characters at least has two ends
    obtain ⟨a, rest, rfl⟩ := List.exists_cons_of_length_pos (by omega : 0 < cs.length)
    obtain rfl | ⟨mid, z, rfl⟩ := List.eq_nil_or_concat' rest
    · simp at atLeast
    simp only [List.length_cons, List.length_append, List.length_nil] at atLeast atMost
    refine ⟨[a], ⟨a, first a rfl, rfl⟩, mid ++ [z], ⟨mid, ⟨by omega, by omega, fun c here => ?_⟩, [z], ⟨z, ?_, rfl⟩,
      rfl⟩, rfl⟩
    · exact inner c (List.mem_cons_of_mem _ (List.mem_append_left _ here))
    · refine last z ?_
      rw [← List.cons_append, List.getLast?_concat]

/-- No other character is in a bucket name. -/
theorem IsBucketName.not_mem (h : IsBucketName cs) {c : Char} (plain : isInner c = false) : c ∉ cs := by
  intro here
  rw [isInner_iff.2 (h.inner c here)] at plain
  cases plain

/-! ## Spellings -/

/-- How a bucket is spelled, by the shapes. -/
inductive Spells (bucket : String) : String → String → Prop
  /-- As a URI. -/
  | uri : Spells bucket "S3 URI" ("s3://" ++ bucket)
  /-- As a URI with a slash at the end. -/
  | closed : Spells bucket "S3 URI" ("s3://" ++ bucket ++ "/")
  /-- As a resource name. -/
  | arn : Spells bucket "S3 bucket ARN" ("arn:aws:s3:::" ++ bucket)
  /-- By its name. -/
  | name : Spells bucket "S3 bucket name" bucket

/-- **A text names a bucket**, in one of the shapes. -/
structure Names (shape raw bucket : String) : Prop where
  /-- The bucket has a proper name. -/
  isName : IsBucketName bucket.toList
  /-- The text spells it in the shape. -/
  spells : Spells bucket shape raw

variable {raw bucket bucket' shape shape' : String}

/-- A text that names a bucket as a URI has the scheme, the bucket, and maybe a slash. -/
theorem names_uri_iff : Names "S3 URI" raw bucket ↔ IsBucketName bucket.toList ∧
    ∃ tail, (tail = "/".toList ∨ tail = []) ∧ "s3://".toList ++ (bucket.toList ++ tail) = raw.toList := by
  constructor
  · rintro ⟨isName, spells⟩
    refine ⟨isName, ?_⟩
    generalize named : "S3 URI" = shape at spells
    cases spells with
    | uri => exact ⟨[], .inr rfl, by simp⟩
    | closed => exact ⟨_, .inl rfl, by simp⟩
    | arn | name => simp at named
  · rintro ⟨isName, tail, rfl | rfl, whole⟩
    · obtain rfl : "s3://" ++ bucket ++ "/" = raw := String.toList_inj.1 (by rw [← whole]; simp)
      exact ⟨isName, .closed⟩
    · obtain rfl : "s3://" ++ bucket = raw := String.toList_inj.1 (by rw [← whole]; simp)
      exact ⟨isName, .uri⟩

/-- A text that names a bucket as a resource name has the lead and the bucket. -/
theorem names_arn_iff : Names "S3 bucket ARN" raw bucket ↔
    IsBucketName bucket.toList ∧ "arn:aws:s3:::".toList ++ bucket.toList = raw.toList := by
  constructor
  · rintro ⟨isName, spells⟩
    refine ⟨isName, ?_⟩
    generalize named : "S3 bucket ARN" = shape at spells
    cases spells with
    | arn => simp
    | uri | closed | name => simp at named
  · rintro ⟨isName, whole⟩
    obtain rfl : "arn:aws:s3:::" ++ bucket = raw := String.toList_inj.1 (by rw [← whole]; simp)
    exact ⟨isName, .arn⟩

/-- A text that names a bucket by its name is the name. -/
theorem names_name_iff : Names "S3 bucket name" raw bucket ↔ IsBucketName bucket.toList ∧ bucket.toList = raw.toList := by
  constructor
  · rintro ⟨isName, spells⟩
    refine ⟨isName, ?_⟩
    generalize named : "S3 bucket name" = shape at spells
    cases spells with
    | name => rfl
    | uri | closed | arn => simp at named
  · rintro ⟨isName, whole⟩
    obtain rfl := String.toList_inj.1 whole
    exact ⟨isName, .name⟩

/-- There are three shapes. -/
theorem Names.shape_cases (h : Names shape raw bucket) :
    shape = "S3 URI" ∨ shape = "S3 bucket ARN" ∨ shape = "S3 bucket name" := by
  cases h.spells with
  | uri | closed => exact .inl rfl
  | arn => exact .inr (.inl rfl)
  | name => exact .inr (.inr rfl)

/-- **The shape can be seen from the text**: by a colon, which no bucket name has, and the first character. -/
theorem Names.shape_eq (h : Names shape raw bucket) : shape = if ':' ∈ raw.toList then
    if raw.toList.head? = some 's' then "S3 URI" else "S3 bucket ARN" else "S3 bucket name" := by
  rcases h.shape_cases with rfl | rfl | rfl
  · obtain ⟨-, tail, -, whole⟩ := names_uri_iff.1 h
    rw [← whole, if_pos (by simp), if_pos (by simp)]
  · obtain ⟨-, whole⟩ := names_arn_iff.1 h
    rw [← whole, if_pos (by simp), if_neg (by simp)]
  · obtain ⟨isName, whole⟩ := names_name_iff.1 h
    rw [← whole, if_neg (isName.not_mem (by decide))]

/-- A bucket name ends where a slash begins. -/
theorem IsBucketName.takeWhile_slash (h : IsBucketName cs) {tail : List Char} (slash : tail = "/".toList ∨ tail = []) :
    (cs ++ tail).takeWhile (· != '/') = cs := by
  have plain : ∀ c ∈ cs, (c != '/') = true := fun c here => bne_iff_ne.2 fun same =>
    h.not_mem (c := '/') (by decide) (same ▸ here)
  rw [List.takeWhile_append_of_pos plain]
  rcases slash with rfl | rfl <;> simp

/-- **A text names one bucket at most, in one shape.** -/
theorem Names.unique (h : Names shape raw bucket) (h' : Names shape' raw bucket') :
    shape = shape' ∧ bucket = bucket' := by
  obtain rfl : shape = shape' := h.shape_eq.trans h'.shape_eq.symm
  refine ⟨rfl, String.toList_inj.1 ?_⟩
  rcases h.shape_cases with rfl | rfl | rfl
  · obtain ⟨isName, tail, slash, whole⟩ := names_uri_iff.1 h
    obtain ⟨isName', tail', slash', whole'⟩ := names_uri_iff.1 h'
    have rest := List.append_cancel_left (whole.trans whole'.symm)
    rw [← isName.takeWhile_slash slash, rest, isName'.takeWhile_slash slash']
  · exact List.append_cancel_left ((names_arn_iff.1 h).2.trans (names_arn_iff.1 h').2.symm)
  · exact (names_name_iff.1 h).2.trans (names_name_iff.1 h').2.symm

/-! ## Shapes -/

section
variable {groups : List (List Char)}

/-- The pattern of URIs divides what names a bucket as a URI. -/
theorem divides_uriPattern_iff : Regex.Divides uriPattern raw.toList groups ↔
    ∃ bucket : String, Names "S3 URI" raw bucket ∧ groups = [bucket.toList] := by
  simp only [uriPattern, Regex.divides_skip_iff, Regex.divides_group_iff, Regex.divides_nil_iff, Regex.mem_opt_iff,
    Regex.mem_word_iff, mem_bucketName_iff, names_uri_iff]
  constructor
  · rintro ⟨-, rfl, -, ⟨name, isName, -, -, ⟨tail, slash, -, ⟨rfl, rfl⟩, rfl⟩, rfl, rfl⟩, whole⟩
    rw [List.append_nil] at whole
    exact ⟨String.ofList name, ⟨by simpa using isName, tail, slash, by simpa using whole⟩, by simp⟩
  · rintro ⟨bucket, ⟨isName, tail, slash, whole⟩, rfl⟩
    refine ⟨_, rfl, _, ⟨_, isName, _, _, ⟨tail, slash, [], ⟨rfl, rfl⟩, rfl⟩, rfl, rfl⟩, ?_⟩
    rw [List.append_nil, whole]

/-- The pattern of resource names divides what names a bucket as one. -/
theorem divides_arnPattern_iff : Regex.Divides arnPattern raw.toList groups ↔
    ∃ bucket : String, Names "S3 bucket ARN" raw bucket ∧ groups = [bucket.toList] := by
  simp only [arnPattern, Regex.divides_skip_iff, Regex.divides_group_iff, Regex.divides_nil_iff, Regex.mem_word_iff,
    mem_bucketName_iff, names_arn_iff]
  constructor
  · rintro ⟨-, rfl, -, ⟨name, isName, -, -, ⟨rfl, rfl⟩, rfl, rfl⟩, whole⟩
    rw [List.append_nil] at whole
    exact ⟨String.ofList name, ⟨by simpa using isName, by simpa using whole⟩, by simp⟩
  · rintro ⟨bucket, ⟨isName, whole⟩, rfl⟩
    refine ⟨_, rfl, _, ⟨_, isName, [], [], ⟨rfl, rfl⟩, rfl, rfl⟩, ?_⟩
    rw [List.append_nil, whole]

/-- The pattern of bare names divides what names a bucket by its name. -/
theorem divides_namePattern_iff : Regex.Divides namePattern raw.toList groups ↔
    ∃ bucket : String, Names "S3 bucket name" raw bucket ∧ groups = [bucket.toList] := by
  simp only [namePattern, Regex.divides_group_iff, Regex.divides_nil_iff, mem_bucketName_iff, names_name_iff]
  constructor
  · rintro ⟨name, isName, -, -, ⟨rfl, rfl⟩, whole, rfl⟩
    rw [List.append_nil] at whole
    exact ⟨String.ofList name, ⟨by simpa using isName, by simpa using whole⟩, by simp⟩
  · rintro ⟨bucket, ⟨isName, whole⟩, rfl⟩
    exact ⟨_, isName, [], [], ⟨rfl, rfl⟩, by rw [List.append_nil, whole], rfl⟩

end

/-- What a text stands for that names a bucket. -/
def storage (bucket : String) : Recognition := ⟨"s3://" ++ bucket, .ofList [("bucket", some bucket)]⟩

/-- A shape recognises what names a bucket in the shape, if its pattern divides that. -/
theorem recognise_iff {format : String} {pattern : List Regex.Part}
    (divides : ∀ {groups}, Regex.Divides pattern raw.toList groups ↔
      ∃ bucket : String, Names shape raw bucket ∧ groups = [bucket.toList])
    {result : Except Failure Recognition} :
    (Shape.ofPattern shape format pattern ofBucket).recognise raw.toList = some result ↔
      ∃ bucket, Names shape raw bucket ∧ result = .ok (storage bucket) := by
  have named (bucket : String) :
      ofBucket ⟨String.ofList raw.toList, [bucket.toList].map String.ofList⟩ = storage bucket := by
    simp [ofBucket, storage, Regex.Match.group]
  rw [Shape.recognise_ofPattern_iff]
  · simp only [divides]
    constructor
    · rintro ⟨-, ⟨bucket, names, rfl⟩, rfl⟩
      exact ⟨bucket, names, by rw [named]⟩
    · rintro ⟨bucket, names, rfl⟩
      exact ⟨_, ⟨bucket, names, rfl⟩, by rw [named]⟩
  · intro groups groups' division division'
    obtain ⟨bucket, names, rfl⟩ := divides.1 division
    obtain ⟨bucket', names', rfl⟩ := divides.1 division'
    rw [(names.unique names').2]

/-- **The shapes of the reader** recognise what names a bucket in them. -/
theorem recognise_shape_iff {s : Shape} (among : s ∈ resolver.shapes) {result : Except Failure Recognition} :
    s.recognise raw.toList = some result ↔ ∃ bucket, Names s.name raw bucket ∧ result = .ok (storage bucket) := by
  simp only [resolver, List.mem_cons, List.not_mem_nil, or_false] at among
  rcases among with rfl | rfl | rfl
  · exact recognise_iff divides_uriPattern_iff
  · exact recognise_iff divides_arnPattern_iff
  · exact recognise_iff divides_namePattern_iff

/-- There is a shape for every way to name a bucket. -/
theorem Names.exists_shape (h : Names shape raw bucket) : ∃ s ∈ resolver.shapes, s.name = shape := by
  rw [← List.mem_map]
  rcases h.shape_cases with rfl | rfl | rfl <;> simp [resolver]

/-- **No two shapes match the same text.** -/
theorem exclusive : resolver.Exclusive := by
  have apart : resolver.shapes.Pairwise fun s s' => s.name ≠ s'.name :=
    List.pairwise_map.1 (by decide : (resolver.shapes.map Shape.name).Nodup)
  refine apart.imp_of_mem fun {s s'} among among' other cs => ?_
  rw [← String.toList_ofList (l := cs)]
  -- a text that both recognise would name a bucket in two shapes
  cases first : s.recognise (String.ofList cs).toList with
  | none => exact .inl rfl
  | some =>
    refine .inr (Option.eq_none_iff_forall_ne_some.2 fun result second => ?_)
    obtain ⟨bucket, names, -⟩ := (recognise_shape_iff among).1 first
    obtain ⟨bucket', names', -⟩ := (recognise_shape_iff among').1 second
    exact other (names.unique names').1

/-- **What is accepted names a bucket**, and stands for it. -/
theorem parse_eq_ok_iff {id : ResourceId} : resolver.parse raw = .ok id ↔ ∃ shape bucket, Names shape raw bucket ∧
    id = ⟨raw, "s3://" ++ bucket, .ofList [("bucket", some bucket)]⟩ := by
  rw [exclusive.parse_eq_ok_iff]
  constructor
  · rintro ⟨s, among, found, recognised, rfl⟩
    obtain ⟨bucket, names, same⟩ := (recognise_shape_iff among).1 recognised
    obtain rfl := Except.ok.inj same
    exact ⟨s.name, bucket, names, rfl⟩
  · rintro ⟨shape, bucket, names, rfl⟩
    obtain ⟨s, among, rfl⟩ := names.exists_shape
    exact ⟨s, among, storage bucket, (recognise_shape_iff among).2 ⟨bucket, names, rfl⟩, rfl⟩

/-- **Everything else is refused**, with the resource type, the text and the accepted formats. -/
theorem parse_eq_error_iff {failure : Failure} : resolver.parse raw = .error failure ↔
    (∀ shape bucket, ¬ Names shape raw bucket) ∧ failure = .invalidResourceId "s3-bucket" raw resolver.formats := by
  have lenient : ∀ s ∈ resolver.shapes, ∀ cs failure, s.recognise cs ≠ some (.error failure) := by
    simp only [resolver, List.mem_cons, List.not_mem_nil, or_false]
    rintro - (rfl | rfl | rfl) <;> exact Shape.recognise_ofPattern_ne_error
  rw [Resolver.parse_eq_error_iff lenient]
  refine and_congr_left fun _ => ?_
  simp only [ne_eq, parse_eq_ok_iff, not_exists, not_and]
  constructor
  · intro none shape bucket names
    exact none _ shape bucket names rfl
  · intro none id shape bucket names
    exact absurd names (none shape bucket)

/-- A text is matched by the shape in which it names a bucket. -/
theorem matching_eq_singleton_iff : resolver.matching raw = [shape] ↔ ∃ bucket, Names shape raw bucket := by
  rw [exclusive.matching_eq_singleton_iff]
  constructor
  · rintro ⟨s, among, rfl, some⟩
    obtain ⟨result, recognised⟩ := Option.isSome_iff_exists.1 some
    obtain ⟨bucket, names, -⟩ := (recognise_shape_iff among).1 recognised
    exact ⟨bucket, names⟩
  · rintro ⟨bucket, names⟩
    obtain ⟨s, among, rfl⟩ := names.exists_shape
    exact ⟨s, among, rfl, Option.isSome_iff_exists.2 ⟨_, (recognise_shape_iff among).2 ⟨bucket, names, rfl⟩⟩⟩

/-- Accepted IDs have the same canonical ID exactly when they name the same bucket. -/
theorem canonicalId_eq_iff {raw' : String} {id id' : ResourceId} (accepted : resolver.parse raw = .ok id)
    (accepted' : resolver.parse raw' = .ok id') : id.canonicalId = id'.canonicalId ↔
      ∃ bucket shape shape', Names shape raw bucket ∧ Names shape' raw' bucket := by
  obtain ⟨shape, bucket, names, rfl⟩ := parse_eq_ok_iff.1 accepted
  obtain ⟨shape', bucket', names', rfl⟩ := parse_eq_ok_iff.1 accepted'
  constructor
  · intro same
    obtain rfl : bucket = bucket' := by simpa using same
    exact ⟨bucket, shape, shape', names, names'⟩
  · rintro ⟨common, _, _, first, second⟩
    obtain rfl := (names.unique first).2
    obtain rfl := (names'.unique second).2
    rfl

/-- **What names a storage bucket.** A text is accepted exactly when it names a bucket in one of the shapes. It then names
no other one, and in no other shape; it is matched by this shape only, and stands for the bucket. All other texts are
refused. Two accepted texts have the same canonical ID exactly when they name the same bucket. -/
theorem buckets_exact (raw : String) :
    (∀ id, resolver.parse raw = .ok id ↔ ∃ shape bucket, Names shape raw bucket ∧
      id = ⟨raw, "s3://" ++ bucket, .ofList [("bucket", some bucket)]⟩) ∧
    (∀ failure, resolver.parse raw = .error failure ↔ (∀ shape bucket, ¬ Names shape raw bucket) ∧
      failure = .invalidResourceId "s3-bucket" raw resolver.formats) ∧
    (∀ shape bucket shape' bucket', Names shape raw bucket → Names shape' raw bucket' →
      shape = shape' ∧ bucket = bucket') ∧
    (∀ shape, resolver.matching raw = [shape] ↔ ∃ bucket, Names shape raw bucket) ∧
    ((∃ id, resolver.parse raw = .ok id) ↔ (resolver.matching raw).length = 1) ∧
    ∀ raw' id id', resolver.parse raw = .ok id → resolver.parse raw' = .ok id' →
      (id.canonicalId = id'.canonicalId ↔ ∃ bucket shape shape', Names shape raw bucket ∧ Names shape' raw' bucket) := by
  refine ⟨fun id => parse_eq_ok_iff, fun failure => parse_eq_error_iff,
    fun shape bucket shape' bucket' names names' => names.unique names', fun shape => matching_eq_singleton_iff, ?_,
    fun raw' id id' => canonicalId_eq_iff⟩
  constructor
  · rintro ⟨id, accepted⟩
    obtain ⟨shape, bucket, names, -⟩ := parse_eq_ok_iff.1 accepted
    rw [matching_eq_singleton_iff.2 ⟨bucket, names⟩, List.length_singleton]
  · intro one
    obtain ⟨shape, alone⟩ := List.length_eq_one_iff.1 one
    obtain ⟨bucket, names⟩ := matching_eq_singleton_iff.1 alone
    exact ⟨_, parse_eq_ok_iff.2 ⟨shape, bucket, names, rfl⟩⟩

/-- A URI with a slash at the end and a resource name stand for the same bucket. -/
theorem buckets_exact_logs : ∃ id id', resolver.parse "s3://logs/" = .ok id ∧
    resolver.parse "arn:aws:s3:::logs" = .ok id' ∧ id.canonicalId = id'.canonicalId ∧
    ∀ shape bucket, Names shape "s3://logs/" bucket → shape = "S3 URI" ∧ bucket = "logs" := by
  have isName : IsBucketName "logs".toList := ⟨by simp, by simp, by simp, by simp, by simp⟩
  have closed : Names "S3 URI" "s3://logs/" "logs" := ⟨isName, .closed⟩
  have arn : Names "S3 bucket ARN" "arn:aws:s3:::logs" "logs" := ⟨isName, .arn⟩
  obtain ⟨reads, -, unique, -, -, same⟩ := buckets_exact "s3://logs/"
  have accepted := (reads _).2 ⟨_, _, closed, rfl⟩
  have accepted' := ((buckets_exact "arn:aws:s3:::logs").1 _).2 ⟨_, _, arn, rfl⟩
  exact ⟨_, _, accepted, accepted', (same _ _ _ accepted accepted').2 ⟨_, _, _, closed, arn⟩,
    fun shape bucket names => unique _ _ _ _ names closed⟩

end ServiceAccess.Bucket
