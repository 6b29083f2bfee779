import FetchKit.Proofs.Address.Scheme
import FetchKit.Proofs.Address.Walk
import FetchKit.Proofs.Source.Word
import Mathlib.Data.List.TakeWhile

/-!
# Plain references

A reference whose segments stand for themselves keeps where an address leads, takes the place of the
last segment of its path, or of the whole path after a slash, and leaves neither query nor fragment.
-/

namespace FetchKit.Address

/-! ## Addresses with a host -/

/-- There is a host, and the path has segments, none with a slash in it. -/
structure Url.IsRooted (u : Url) : Prop where
  authority : u.authority.isSome = true
  path : ∃ list, u.path = .segments list ∧ list ≠ [] ∧ ∀ s ∈ list, '/' ∉ s

theorem pathAfterAuthority_clear (port : Nat) (cs : List Char) :
    pathAfterAuthority (.special port) cs ≠ [] ∧
      ∀ s ∈ pathAfterAuthority (.special port) cs, '/' ∉ s := by
  have hwalk := walk_clear (k := .special port) (by simp) Trail.clear_start
  unfold pathAfterAuthority
  split
  · simp [SchemeKind.isSpecial]
  · next c rest =>
    have hnot : (endsPath c && !(SchemeKind.special port).isSpecial) = false := by
      simp [SchemeKind.isSpecial]
    rw [hnot]
    split
    · exact hwalk rest
    · exact hwalk (c :: rest)

theorem parse_isRooted {s : String} {u : Url} {port : Nat} (h : Url.parse s = .ok u)
    (hkind : u.kind = .special port) : u.IsRooted := by
  obtain ⟨hread, -⟩ := join_of_parse h u
  have hspecial : SchemeKind.ofText u.scheme = .special port := hkind
  unfold readWithScheme at hread
  simp only [hspecial] at hread
  obtain ⟨authority, rest, hu⟩ := readAuthority_eq_ok hread
  have hauthority := congrArg Url.authority hu
  have hpath := congrArg Url.path hu
  rw [withTail_authority] at hauthority
  rw [withTail_path, hspecial] at hpath
  exact ⟨by simp [hauthority], _, hpath, pathAfterAuthority_clear port rest⟩

/-! ## Plain segments -/

/-- Letters, digits, `-`, `_`, `~` and `.`. -/
def unreserved : List Char :=
  "ABCDEFGHIJKLMNOPQRSTUVWXYZabcdefghijklmnopqrstuvwxyz0123456789-_~.".toList

/-- A segment that stands for itself. -/
structure IsPlainSegment (s : List Char) : Prop where
  ne_nil : s ≠ []
  unreserved : ∀ c ∈ s, c ∈ unreserved
  ne_dot : s ≠ ['.']
  ne_dots : s ≠ ['.', '.']

/-- A character that means nothing else in a path. -/
structure Ordinary (c : Char) : Prop where
  not_trimmed : isTrimmed c = false
  not_skipped : isSkipped c = false
  not_slash : isSlash c = false
  not_end : endsPath c = false
  not_encoded : inPathSet c = false
  ne_colon : c ≠ ':'
  ne_percent : c ≠ '%'

theorem ordinary_of_unreserved {c : Char} (h : c ∈ unreserved) : Ordinary c := by
  have hall : ∀ c ∈ unreserved, isTrimmed c = false ∧ isSkipped c = false ∧ isSlash c = false ∧
      endsPath c = false ∧ inPathSet c = false ∧ c ≠ ':' ∧ c ≠ '%' :=
    Source.forall_mem_of_all (by decide)
  obtain ⟨htrimmed, hskipped, hslash, hend, hencoded, hcolon, hpercent⟩ := hall c h
  exact ⟨htrimmed, hskipped, hslash, hend, hencoded, hcolon, hpercent⟩

theorem IsPlainSegment.ordinary {s : List Char} (h : IsPlainSegment s) {c : Char} (hc : c ∈ s) :
    Ordinary c := ordinary_of_unreserved (h.unreserved c hc)

theorem eq_replicate_of_dots {s : List Char} {n : Nat} (hs : '%' ∉ s) (h : dots s = some n) :
    s = List.replicate n '.' := by
  induction s using dots.induct generalizing n with
  | case1 => simp_all [dots]
  | case2 rest ih =>
    rw [dots, Option.map_eq_some_iff] at h
    obtain ⟨m, hm, rfl⟩ := h
    rw [ih (by simp_all) hm, List.replicate_succ]
  | case3 rest ih => simp at hs
  | case4 rest ih => simp at hs
  | case5 s h1 h2 h3 h4 => simp_all [dots]

theorem clean_eq_self {cs : List Char} (h : ∀ c ∈ cs, isSkipped c = false) : clean cs = cs :=
  List.filter_eq_self.2 fun c hc => by simp [h c hc]

theorem pushSegment_plain {k : SchemeKind} (hk : k ≠ .file) {t : Trail} (ht : t.stem = [])
    {s : List Char} (hs : IsPlainSegment s) (isLast : Bool) :
    pushSegment k t s isLast = { t with behind := s :: t.behind } := by
  have hclean : clean s = s := clean_eq_self fun c hc => (hs.ordinary hc).not_skipped
  have hencode : percentEncode inPathSet s = s :=
    percentEncode_eq_self fun c hc => (hs.ordinary hc).not_encoded
  have hdots : ∀ n, dots s = some n → s = List.replicate n '.' := fun n =>
    eq_replicate_of_dots fun hc => (hs.ordinary hc).ne_percent rfl
  unfold pushSegment
  simp only [hclean, hencode]
  split
  · next h => exact absurd (hdots 1 h) hs.ne_dot
  · next h => exact absurd (hdots 2 h) hs.ne_dots
  · simp [hk, Trail.push_of_stem hk ht]

theorem pushSegments_plain {k : SchemeKind} (hk : k ≠ .file) {t : Trail} (ht : t.stem = [])
    {segments : List (List Char)} (hs : ∀ s ∈ segments, IsPlainSegment s) :
    pushSegments k t segments = { t with behind := segments.reverse ++ t.behind } := by
  induction segments generalizing t with
  | nil => rfl
  | cons s more ih =>
    have hfirst := pushSegment_plain hk ht (hs s List.mem_cons_self)
    cases more with
    | nil => rw [pushSegments, hfirst]; rfl
    | cons next more =>
      rw [pushSegments, hfirst, ih (by exact ht) fun r hr => hs r (List.mem_cons_of_mem s hr)]
      · simp
      · simp

theorem rawSegments_intercalate {k : SchemeKind} {segments : List (List Char)}
    (hs : ∀ s ∈ segments, ∀ c ∈ s, endsSegment k c = false) (hne : segments ≠ []) :
    rawSegments k (['/'].intercalate segments) = segments := by
  unfold rawSegments
  induction segments with
  | nil => exact absurd rfl hne
  | cons s more ih =>
    have hfirst := hs s List.mem_cons_self
    cases more with
    | nil => simp [List.splitOnP_eq_singleton hfirst]
    | cons next more =>
      have hmore := ih (fun r hr => hs r (List.mem_cons_of_mem s hr)) (List.cons_ne_nil next more)
      have hslash : endsSegment k '/' = true := by simp [endsSegment]
      rw [List.intercalate_cons_cons, List.append_assoc, List.singleton_append,
        List.splitOnP_append_cons_of_forall_mem hfirst '/' hslash, hmore]

/-! ## References -/

/-- Segments with slashes between them, and maybe one in front. -/
def referenceText (rooted : Bool) (segments : List (List Char)) : List Char :=
  (if rooted then ['/'] else []) ++ ['/'].intercalate segments

theorem mem_intercalate {segments : List (List Char)} {c : Char}
    (h : c ∈ ['/'].intercalate segments) : c = '/' ∨ ∃ s ∈ segments, c ∈ s := by
  induction segments with
  | nil => simp at h
  | cons s more ih =>
    cases more with
    | nil => exact .inr ⟨s, List.mem_cons_self, by simpa using h⟩
    | cons next more =>
      rw [List.intercalate_cons_cons, List.append_assoc, List.singleton_append, List.mem_append,
        List.mem_cons] at h
      rcases h with h | h | h
      · exact .inr ⟨s, List.mem_cons_self, h⟩
      · exact .inl h
      · rcases ih h with h | ⟨r, hr, hc⟩
        · exact .inl h
        · exact .inr ⟨r, List.mem_cons_of_mem s hr, hc⟩

theorem mem_referenceText {rooted : Bool} {segments : List (List Char)}
    (hs : ∀ s ∈ segments, IsPlainSegment s) {c : Char} (h : c ∈ referenceText rooted segments) :
    c = '/' ∨ Ordinary c := by
  rw [referenceText, List.mem_append] at h
  rcases h with h | h
  · cases rooted <;> simp_all
  · rcases mem_intercalate h with h | ⟨s, hmem, hc⟩
    · exact .inl h
    · exact .inr ((hs s hmem).ordinary hc)

theorem endsPath_intercalate {segments : List (List Char)} (hs : ∀ s ∈ segments, IsPlainSegment s) :
    ∀ c ∈ ['/'].intercalate segments, endsPath c = false := by
  intro c hc
  rcases mem_intercalate hc with rfl | ⟨s, hmem, hc⟩
  · rfl
  · exact ((hs s hmem).ordinary hc).not_end

theorem endsSegment_of_not_slash {c : Char} (h : isSlash c = false) (k : SchemeKind) :
    endsSegment k c = false := by
  simp only [isSlash, Bool.or_eq_false_iff] at h
  simp [endsSegment, h]

theorem walk_plain {k : SchemeKind} (hk : k ≠ .file) {t : Trail} (ht : t.stem = [])
    {segments : List (List Char)} (hs : ∀ s ∈ segments, IsPlainSegment s) (hne : segments ≠ []) :
    walk k t (['/'].intercalate segments) = t.behind.reverse ++ segments := by
  have htake : (['/'].intercalate segments).takeWhile (!endsPath ·) = ['/'].intercalate segments :=
    List.takeWhile_eq_self_iff.2 fun c hc => by simp [endsPath_intercalate hs c hc]
  have hsplit : rawSegments k (['/'].intercalate segments) = segments :=
    rawSegments_intercalate
      (fun s hmem c hc => endsSegment_of_not_slash ((hs s hmem).ordinary hc).not_slash k) hne
  rw [walk, walkOn, htake, hsplit, path_of_not_file hk, pushSegments_plain hk ht hs]
  simp

theorem ofBase_of_not_file {k : SchemeKind} (hk : k ≠ .file) (path : List (List Char)) :
    Trail.ofBase k path = { behind := path.dropLast.reverse } := by
  rw [← List.tail_reverse, Trail.ofBase]
  split
  · next h => rw [h]; rfl
  · next s h => simp [h, hk]
  · next s behind _ h => simp [h, hk]

/-! ## A text that is relative -/

theorem dropWhile_eq_self {p : Char → Bool} {cs : List Char} (h : ∀ c ∈ cs, p c = false) :
    cs.dropWhile p = cs := by
  cases cs with
  | nil => rfl
  | cons c cs => rw [List.dropWhile_cons_of_neg (by simp [h c List.mem_cons_self])]

theorem trim_eq_self {p : Char → Bool} {cs : List Char} (h : ∀ c ∈ cs, p c = false) :
    trim p cs = cs := by
  have hreverse : ∀ c ∈ cs.reverse, p c = false := fun c hc => h c (List.mem_reverse.1 hc)
  rw [trim, dropWhile_eq_self h, dropWhile_eq_self hreverse, List.reverse_reverse]

theorem splitScheme_eq_none {cs : List Char} (h : ':' ∉ cs) : splitScheme cs = none := by
  unfold splitScheme
  dsimp only
  split
  · next c rest =>
    split
    · split
      · next more hdrop =>
        have hmem : ':' ∈ (c :: rest).dropWhile _ := hdrop ▸ List.mem_cons_self
        exact absurd ((List.dropWhile_sublist _).subset hmem) h
      · rfl
    · rfl
  · rfl

theorem join_eq_readRelative {base : Url} {cs : List Char}
    (h : ∀ c ∈ cs, isTrimmed c = false ∧ isSkipped c = false ∧ c ≠ ':' ∧ c ≠ '#')
    (hwhole : base.isWhole = false) (hfile : base.kind ≠ .file) :
    base.join (String.ofList cs) = readRelative base cs := by
  have htrim : trim isTrimmed cs = cs := trim_eq_self fun c hc => (h c hc).1
  have hclean : clean cs = cs := clean_eq_self fun c hc => (h c hc).2.1
  have hscheme : splitScheme cs = none := splitScheme_eq_none fun hc => (h ':' hc).2.2.1 rfl
  have hmark : ∀ f, cs ≠ '#' :: f := fun f hf => (h '#' (hf ▸ List.mem_cons_self)).2.2.2 rfl
  unfold Url.join read
  simp only [String.toList_ofList, htrim, hclean, hscheme, hwhole, Bool.false_eq_true, if_false,
    if_neg hfile]

/-! ## The path as a text -/

/-- The path as it stands in the text of an address. -/
def Url.pathChars (u : Url) : List Char := pathText u.authority.isSome u.path

/-- A text up to its last slash, that slash included. -/
def upToLastSlash (cs : List Char) : List Char := (cs.reverse.dropWhile (· != '/')).reverse

theorem pathText_segments (list : List (List Char)) :
    pathText true (.segments list) = segmentsText list := by
  unfold pathText
  split <;> simp_all

theorem segmentsText_append (a b : List (List Char)) :
    segmentsText (a ++ b) = segmentsText a ++ segmentsText b := by
  simp [segmentsText]

theorem segmentsText_eq {list : List (List Char)} (hne : list ≠ []) :
    segmentsText list = '/' :: ['/'].intercalate list := by
  induction list with
  | nil => exact absurd rfl hne
  | cons s more ih =>
    cases more with
    | nil => simp [segmentsText]
    | cons next more =>
      have hcons : segmentsText (s :: next :: more) = '/' :: s ++ segmentsText (next :: more) := rfl
      rw [hcons, ih (List.cons_ne_nil next more), List.intercalate_cons_cons]
      simp

theorem upToLastSlash_segmentsText {list : List (List Char)} (hne : list ≠ [])
    (h : ∀ s ∈ list, '/' ∉ s) :
    upToLastSlash (segmentsText list) = segmentsText list.dropLast ++ ['/'] := by
  have hlast : '/' ∉ list.getLast hne := h _ (List.getLast_mem hne)
  have hsplit : segmentsText list = segmentsText list.dropLast ++ '/' :: list.getLast hne := by
    conv_lhs => rw [← List.dropLast_append_getLast hne]
    simp [segmentsText]
  rw [upToLastSlash, hsplit, List.reverse_append, List.reverse_cons, List.append_assoc,
    List.dropWhile_append_of_pos]
  · simp
  · intro c hc
    have hne : c ≠ '/' := fun heq => hlast (heq ▸ List.mem_reverse.1 hc)
    simpa using hne

/-! ## Joining -/

theorem walk_nil {k : SchemeKind} (hk : k ≠ .file) : walk k {} [] = [[]] := by
  rw [walk, walkOn, path_of_not_file hk]
  simp [rawSegments, pushSegments, pushSegment, clean, percentEncode, dots, Trail.push, hk]

theorem afterPath_eq_nil {cs : List Char} (h : ∀ c ∈ cs, endsPath c = false) : afterPath cs = [] :=
  List.dropWhile_eq_nil_iff.2 fun c hc => by simp [h c hc]

theorem readRelative_rooted {base : Url} {rest : List Char}
    (hhead : ∀ c ∈ rest.head?, isSlash c = false) (hends : ∀ c ∈ rest, endsPath c = false) :
    readRelative base ('/' :: rest) = .ok
      { base with path := .segments (walk base.kind {} rest), query := none, fragment := none } := by
  have hslash : isSlash '/' = true := rfl
  cases rest with
  | nil => rfl
  | cons d more =>
    have hd : isSlash d = false := hhead d rfl
    simp [readRelative, hslash, hd, afterPath_eq_nil hends, withTail]

theorem readRelative_unrooted {base : Url} {c : Char} {rest : List Char} (hc : isSlash c = false)
    (hends : ∀ d ∈ c :: rest, endsPath d = false) :
    readRelative base (c :: rest) = .ok
      { base with
        path := .segments (walk base.kind (.ofBase base.kind base.segments) (c :: rest))
        query := none
        fragment := none } := by
  have hmarks : c ≠ '?' ∧ c ≠ '#' := by simpa [endsPath] using hends c List.mem_cons_self
  simp [readRelative, hmarks, hc, afterPath_eq_nil hends, withTail]

theorem head?_intercalate {segments : List (List Char)} (hs : ∀ s ∈ segments, IsPlainSegment s) :
    ∀ c ∈ (['/'].intercalate segments).head?, isSlash c = false := by
  intro c hc
  cases segments with
  | nil => simp at hc
  | cons s more =>
    have hplain := hs s List.mem_cons_self
    obtain ⟨d, ds, rfl⟩ := List.exists_cons_of_ne_nil hplain.ne_nil
    have hcd : d = c := by cases more <;> simpa [List.intercalate_cons_cons] using hc
    exact (hplain.ordinary (hcd ▸ List.mem_cons_self)).not_slash

/-- The path that a plain reference leads to. -/
def referencePath (path : List (List Char)) (rooted : Bool) (segments : List (List Char)) :
    List (List Char) :=
  if segments = [] then [[]] else if rooted then segments else path.dropLast ++ segments

theorem readRelative_reference {base : Url} (hfile : base.kind ≠ .file) {rooted : Bool}
    {segments : List (List Char)} (hs : ∀ s ∈ segments, IsPlainSegment s)
    (hne : referenceText rooted segments ≠ []) :
    readRelative base (referenceText rooted segments) = .ok
      { base with
        path := .segments (referencePath base.segments rooted segments)
        query := none
        fragment := none } := by
  have hends := endsPath_intercalate hs
  have hhead := head?_intercalate hs
  cases rooted with
  | true =>
    have hwalk : walk base.kind {} (['/'].intercalate segments) =
        referencePath base.segments true segments := by
      unfold referencePath
      split
      · next h => rw [h]; exact walk_nil hfile
      · next h => rw [walk_plain hfile rfl hs h]; rfl
    rw [← hwalk]
    exact readRelative_rooted hhead hends
  | false =>
    have hsegments : segments ≠ [] := fun h => hne (by rw [h]; rfl)
    have hwalk : walk base.kind (.ofBase base.kind base.segments) (['/'].intercalate segments) =
        referencePath base.segments false segments := by
      rw [ofBase_of_not_file hfile, walk_plain hfile rfl hs hsegments]
      simp [referencePath, hsegments]
    rw [← hwalk]
    obtain ⟨c, rest, htext⟩ := List.exists_cons_of_ne_nil hne
    change ['/'].intercalate segments = c :: rest at htext
    change readRelative base (['/'].intercalate segments) = _
    rw [htext] at hends hhead ⊢
    exact readRelative_unrooted (hhead c rfl) hends

/-- A plain reference keeps the front of the address that it is joined to, and its path takes the
place of the last segment or, after a slash, of all. -/
theorem join_reference {base : Url} {port : Nat} (hkind : base.kind = .special port)
    (hwhole : base.isWhole = false) {rooted : Bool} {segments : List (List Char)}
    (hs : ∀ s ∈ segments, IsPlainSegment s) (hne : referenceText rooted segments ≠ []) :
    base.join (String.ofList (referenceText rooted segments)) = .ok
      { base with
        path := .segments (referencePath base.segments rooted segments)
        query := none
        fragment := none } := by
  have hfile : base.kind ≠ .file := by simp [hkind]
  rw [join_eq_readRelative (fun c hc => ?_) hwhole hfile, readRelative_reference hfile hs hne]
  rcases mem_referenceText hs hc with rfl | hc
  · decide
  · have hmark : c ≠ '#' := by
      rintro rfl
      exact absurd hc.not_end (by decide)
    exact ⟨hc.not_trimmed, hc.not_skipped, hc.ne_colon, hmark⟩

theorem segmentsText_referencePath {path : List (List Char)} (hpath : path ≠ [])
    (hslash : ∀ s ∈ path, '/' ∉ s) {rooted : Bool} {segments : List (List Char)}
    (hne : referenceText rooted segments ≠ []) :
    segmentsText (referencePath path rooted segments) =
      if rooted then referenceText rooted segments
      else upToLastSlash (segmentsText path) ++ referenceText rooted segments := by
  cases rooted with
  | true =>
    unfold referencePath referenceText
    split
    · next h => rw [h]; rfl
    · next h => exact segmentsText_eq h
  | false =>
    have hsegments : segments ≠ [] := fun h => hne (by rw [h]; rfl)
    simp [referencePath, hsegments, referenceText, segmentsText_append, segmentsText_eq hsegments,
      upToLastSlash_segmentsText hpath hslash]

end FetchKit.Address
