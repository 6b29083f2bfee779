import FetchKit.Http.Client
import FetchKit.Proofs.Http.Settings

/-!
# The headers that requests carry

A client is made unless an entry of its list is no header, and then the first such entry decides. The
requests of a client carry one header for each name of the list, whatever the case of its letters,
with the value that was given last.
-/

namespace FetchKit.Http

open FetchKit.Text

/-! ## Entries -/

/-- A name with small letters: names that differ in the case of letters alone are one name. -/
def smallName (s : String) : String := String.ofList (s.toList.map Char.toLower)

def IsHeaderName (s : String) : Prop :=
  s.toList ≠ [] ∧ s.toList.length ≤ 65535 ∧ ∀ c ∈ s.toList, isNameChar c = true

def IsHeaderValue (s : String) : Prop := ∀ b ∈ Utf8.encode s.toList, isValueByte b = true

instance : DecidablePred IsHeaderName := fun s =>
  decidable_of_iff (s.toList ≠ [] ∧ s.toList.length ≤ 65535 ∧ s.toList.all isNameChar = true)
    (by rw [IsHeaderName, List.all_eq_true])

instance : DecidablePred IsHeaderValue := fun s =>
  decidable_of_iff ((Utf8.encode s.toList).all isValueByte = true)
    (by rw [IsHeaderValue, List.all_eq_true])

theorem headerName?_eq (s : String) :
    headerName? s = if IsHeaderName s then some (smallName s) else none := by
  have hiff : (!s.toList.isEmpty && decide (s.toList.length ≤ nameLimit) &&
      s.toList.all isNameChar) = true ↔ IsHeaderName s := by
    simp only [Bool.and_eq_true, Bool.not_eq_true', List.isEmpty_eq_false_iff, decide_eq_true_eq,
      List.all_eq_true, and_assoc]
    rfl
  by_cases h : IsHeaderName s
  · rw [if_pos h, headerName?, if_pos (hiff.2 h), smallName]
  · rw [if_neg h, headerName?, if_neg (mt hiff.1 h)]

theorem headerValue?_eq (s : String) :
    headerValue? s = if IsHeaderValue s then some (Utf8.encode s.toList) else none := by
  by_cases h : IsHeaderValue s
  · rw [if_pos h, headerValue?, if_pos (List.all_eq_true.2 h)]
  · rw [if_neg h, headerValue?, if_neg (mt List.all_eq_true.1 h)]

def IsHeader (entry : String × String) : Prop := IsHeaderName entry.1 ∧ IsHeaderValue entry.2

instance : DecidablePred IsHeader := fun entry =>
  inferInstanceAs (Decidable (IsHeaderName entry.1 ∧ IsHeaderValue entry.2))

/-- What is wrong with an entry that is no header. A value is looked at only after a good name. -/
inductive EntryFault : String × String → Error → Prop
  | name {name value} (hname : ¬IsHeaderName name) : EntryFault (name, value) .badHeaderName
  | value {name value} (hname : IsHeaderName name) (hvalue : ¬IsHeaderValue value) :
    EntryFault (name, value) .badHeaderValue

theorem EntryFault.not_isHeader {entry : String × String} {e : Error} (h : EntryFault entry e) :
    ¬IsHeader entry := by
  cases h with
  | name hname => exact fun h => hname h.1
  | value _ hvalue => exact fun h => hvalue h.2

theorem exists_entryFault {entry : String × String} (h : ¬IsHeader entry) :
    ∃ e, EntryFault entry e := by
  by_cases hname : IsHeaderName entry.1
  · exact ⟨_, .value hname fun hvalue => h ⟨hname, hvalue⟩⟩
  · exact ⟨_, .name hname⟩

/-! ## One entry, then many -/

namespace Headers

def names (h : Headers) : List String := h.map Prod.fst

@[simp] theorem get?_nil (name : String) : get? [] name = none := rfl

@[simp] theorem get?_cons (n : String) (v : List UInt8) (rest : Headers) (name : String) :
    get? ((n, v) :: rest) name = if name = n then some v else get? rest name := by
  by_cases h : name = n
  · simp [get?, h]
  · simp [get?, List.lookup_cons, h, beq_false_of_ne h]

@[simp] theorem names_nil : names [] = [] := rfl

@[simp] theorem names_cons (n : String) (v : List UInt8) (rest : Headers) :
    names ((n, v) :: rest) = n :: names rest := rfl

theorem get?_insert (h : Headers) (name other : String) (value : List UInt8) :
    (h.insert name value).get? other = if other = name then some value else h.get? other := by
  induction h with
  | nil => simp [insert]
  | cons entry rest ih =>
    obtain ⟨n, v⟩ := entry
    by_cases hn : n = name
    · by_cases ho : other = name <;> simp [insert, hn, ho]
    · by_cases ho : other = n
      · simp [insert, hn, ho]
      · simp [insert, hn, ho, ih]

theorem mem_names_insert {h : Headers} {name other : String} {value : List UInt8} :
    other ∈ (h.insert name value).names ↔ other = name ∨ other ∈ h.names := by
  induction h with
  | nil => simp [insert]
  | cons entry rest ih =>
    obtain ⟨n, v⟩ := entry
    by_cases hn : n = name
    · simp [insert, hn]
    · simp [insert, hn, ih, or_left_comm]

theorem nodup_names_insert {h : Headers} (hnodup : h.names.Nodup) (name : String)
    (value : List UInt8) : (h.insert name value).names.Nodup := by
  induction h with
  | nil => simp [insert]
  | cons entry rest ih =>
    obtain ⟨n, v⟩ := entry
    obtain ⟨hnew, hrest⟩ : n ∉ names rest ∧ (names rest).Nodup := List.nodup_cons.1 hnodup
    by_cases hn : n = name
    · simpa [insert, hn] using hnodup
    · simp [insert, hn, mem_names_insert, hnew, ih hrest]

/-- One more entry that is a header. -/
def put (h : Headers) (entry : String × String) : Headers :=
  h.insert (smallName entry.1) (Utf8.encode entry.2.toList)

end Headers

/-- The last value that a list gives to a name. -/
def lastValue (list : List (String × String)) (name : String) : Option String :=
  (list.filterMap fun entry => if smallName entry.1 = name then some entry.2 else none).getLast?

theorem lastValue_cons (entry : String × String) (list : List (String × String)) (name : String) :
    lastValue (entry :: list) name =
      (lastValue list name).or (if smallName entry.1 = name then some entry.2 else none) := by
  by_cases h : smallName entry.1 = name
  · simp only [lastValue, List.filterMap_cons, if_pos h, List.getLast?_cons]
    cases List.getLast? _ <;> rfl
  · simp only [lastValue, List.filterMap_cons, if_neg h, Option.or_none]

theorem get?_foldl_put (list : List (String × String)) (h : Headers) (name : String) :
    (list.foldl Headers.put h).get? name =
      ((lastValue list name).map fun v => Utf8.encode v.toList).or (h.get? name) := by
  induction list generalizing h with
  | nil => rfl
  | cons entry list ih =>
    rw [List.foldl_cons, ih, Headers.put, Headers.get?_insert, lastValue_cons]
    cases lastValue list name <;> by_cases hname : name = smallName entry.1 <;> simp [hname, eq_comm]

theorem mem_names_foldl_put (list : List (String × String)) (h : Headers) (name : String) :
    name ∈ (list.foldl Headers.put h).names ↔
      (∃ entry ∈ list, smallName entry.1 = name) ∨ name ∈ h.names := by
  induction list generalizing h with
  | nil => simp
  | cons entry list ih =>
    rw [List.foldl_cons, ih, Headers.put, Headers.mem_names_insert]
    simp [or_assoc, or_left_comm, eq_comm]

theorem nodup_names_foldl_put (list : List (String × String)) {h : Headers} (hnodup : h.names.Nodup) :
    (list.foldl Headers.put h).names.Nodup := by
  induction list generalizing h with
  | nil => exact hnodup
  | cons entry list ih => exact ih (Headers.nodup_names_insert hnodup ..)

/-! ## The whole list -/

/-- One round of `readHeaders`. -/
def addEntry (h : Headers) (entry : String × String) : Except Error Headers :=
  match headerName? entry.1, headerValue? entry.2 with
  | none, _ => .error .badHeaderName
  | some _, none => .error .badHeaderValue
  | some name, some value => .ok (h.insert name value)

theorem readHeaders_eq (list : List (String × String)) : readHeaders list = list.foldlM addEntry [] :=
  rfl

theorem addEntry_of_isHeader {entry : String × String} (hentry : IsHeader entry) (h : Headers) :
    addEntry h entry = .ok (h.put entry) := by
  simp only [addEntry, headerName?_eq, headerValue?_eq, if_pos hentry.1, if_pos hentry.2, Headers.put]

theorem EntryFault.addEntry_eq {entry : String × String} {e : Error} (hentry : EntryFault entry e)
    (h : Headers) : addEntry h entry = .error e := by
  cases hentry with
  | name hname => simp only [addEntry, headerName?_eq, if_neg hname]
  | value hname hvalue =>
    simp only [addEntry, headerName?_eq, headerValue?_eq, if_pos hname, if_neg hvalue]

theorem foldlM_addEntry {list : List (String × String)} (hlist : ∀ entry ∈ list, IsHeader entry)
    (h : Headers) : list.foldlM addEntry h = .ok (list.foldl Headers.put h) := by
  induction list generalizing h with
  | nil => rfl
  | cons entry list ih =>
    obtain ⟨hentry, hlist⟩ := List.forall_mem_cons.1 hlist
    rw [List.foldlM_cons, addEntry_of_isHeader hentry]
    exact ih hlist _

/-- This fault is the first of the list. -/
def FirstFault (list : List (String × String)) (e : Error) : Prop :=
  ∃ before entry after, list = before ++ entry :: after ∧
    (∀ x ∈ before, IsHeader x) ∧ EntryFault entry e

theorem FirstFault.readHeaders_eq {list : List (String × String)} {e : Error}
    (h : FirstFault list e) : readHeaders list = .error e := by
  obtain ⟨before, entry, after, rfl, hbefore, hentry⟩ := h
  rw [FetchKit.Http.readHeaders_eq, List.foldlM_append, foldlM_addEntry hbefore]
  change List.foldlM addEntry _ (entry :: after) = _
  rw [List.foldlM_cons, hentry.addEntry_eq]
  rfl

theorem exists_firstFault {list : List (String × String)} (h : ∃ entry ∈ list, ¬IsHeader entry) :
    ∃ e, FirstFault list e := by
  induction list with
  | nil => simp at h
  | cons entry list ih =>
    by_cases hentry : IsHeader entry
    · have hmore : ∃ x ∈ list, ¬IsHeader x := by simpa [hentry] using h
      obtain ⟨e, before, x, after, rfl, hbefore, hx⟩ := ih hmore
      exact ⟨e, entry :: before, x, after, rfl, List.forall_mem_cons.2 ⟨hentry, hbefore⟩, hx⟩
    · obtain ⟨e, he⟩ := exists_entryFault hentry
      exact ⟨e, [], entry, list, rfl, by simp, he⟩

theorem FirstFault.not_isHeader {list : List (String × String)} {e : Error} (h : FirstFault list e) :
    ∃ entry ∈ list, ¬IsHeader entry := by
  obtain ⟨before, entry, after, rfl, -, hentry⟩ := h
  exact ⟨entry, by simp, hentry.not_isHeader⟩

theorem readHeaders_eq_ok_iff {list : List (String × String)} {h : Headers} :
    readHeaders list = .ok h ↔ (∀ entry ∈ list, IsHeader entry) ∧ list.foldl Headers.put [] = h := by
  constructor
  · intro hread
    have hlist : ∀ entry ∈ list, IsHeader entry := by
      by_contra hnot
      obtain ⟨e, he⟩ := exists_firstFault (by simpa using hnot)
      rw [he.readHeaders_eq] at hread
      cases hread
    rw [readHeaders_eq, foldlM_addEntry hlist] at hread
    cases hread
    exact ⟨hlist, rfl⟩
  · rintro ⟨hlist, rfl⟩
    rw [readHeaders_eq, foldlM_addEntry hlist]

theorem readHeaders_eq_error_iff {list : List (String × String)} {e : Error} :
    readHeaders list = .error e ↔ FirstFault list e := by
  constructor
  · intro hread
    have hlist : ∃ entry ∈ list, ¬IsHeader entry := by
      by_contra hnot
      rw [readHeaders_eq, foldlM_addEntry (by simpa using hnot)] at hread
      cases hread
    obtain ⟨e', he'⟩ := exists_firstFault hlist
    rw [he'.readHeaders_eq] at hread
    cases hread
    exact he'
  · exact FirstFault.readHeaders_eq

theorem new_eq_ok_iff {o : Options} {c : Client} :
    Client.new o = .ok c ↔ readHeaders o.headers = .ok c.headers ∧ c.options = o := by
  cases c
  simp only [Client.new]
  cases readHeaders o.headers with
  | error e => simp [bind, Except.bind]
  | ok h => simp [bind, Except.bind, pure, Except.pure, eq_comm, and_comm]

theorem new_eq_error_iff {o : Options} {e : Error} :
    Client.new o = .error e ↔ readHeaders o.headers = .error e := by
  simp only [Client.new]
  cases readHeaders o.headers <;> simp [bind, Except.bind, pure, Except.pure]

theorem smallName_userAgent : smallName "User-Agent" = "user-agent" := by decide +kernel

/-- Whatever settings options are built from: a client fails to be made exactly where an entry is no
header, with the fault of the first such entry. One that is made keeps its options, with the whole
list, and its requests carry each name of the list once and with the value that was given last. What
the settings say of the user agent, in letters of any case, stands in place of what is built in, and
has no part in the value of any other name. -/
theorem new_headers {settings : List Setting} {o : Options}
    (hbuild : (Draft.ofSettings settings).build = .ok o) :
    (∀ e, Client.new o = .error e ↔ FirstFault o.headers e) ∧
      ((∃ e, Client.new o = .error e) ↔ ∃ entry ∈ o.headers, ¬IsHeader entry) ∧
      ∀ c, Client.new o = .ok c →
        c.options = o ∧
        c.options.headers = ("User-Agent", "netreq/0.1.0") :: settings.filterMap Setting.header? ∧
        c.headers.names.Nodup ∧
        (∀ name, name ∈ c.headers.names ↔ ∃ entry ∈ o.headers, smallName entry.1 = name) ∧
        (∀ name, c.headers.get? name =
          (lastValue o.headers name).map fun value => Utf8.encode value.toList) ∧
        c.headers.get? "user-agent" = some (Utf8.encode
          ((lastValue (settings.filterMap Setting.header?) "user-agent").getD
            "netreq/0.1.0").toList) ∧
        ∀ name ≠ "user-agent", c.headers.get? name =
          (lastValue (settings.filterMap Setting.header?) name).map
            fun value => Utf8.encode value.toList := by
  have herror : ∀ e, Client.new o = .error e ↔ FirstFault o.headers e := fun e => by
    rw [new_eq_error_iff, readHeaders_eq_error_iff]
  refine ⟨herror, ?_, fun c hc => ?_⟩
  · simp only [herror]
    exact ⟨fun ⟨e, he⟩ => he.not_isHeader, exists_firstFault⟩
  · obtain ⟨hread, rfl⟩ := new_eq_ok_iff.1 hc
    obtain ⟨-, hheaders⟩ := readHeaders_eq_ok_iff.1 hread
    obtain ⟨-, -, -, -, -, hlist⟩ := build_eq_ok_iff.1 hbuild
    rw [ofSettings_eq] at hlist
    have hget : ∀ name, c.headers.get? name =
        (lastValue c.options.headers name).map fun value => Utf8.encode value.toList := by
      intro name
      rw [← hheaders, get?_foldl_put, Headers.get?_nil, Option.or_none]
    refine ⟨rfl, hlist, ?_, fun name => ?_, hget, ?_, fun name hname => ?_⟩
    · rw [← hheaders]
      exact nodup_names_foldl_put _ List.nodup_nil
    · rw [← hheaders, mem_names_foldl_put]
      simp
    · rw [hget, hlist, lastValue_cons, smallName_userAgent, if_pos rfl]
      cases lastValue _ _ <;> rfl
    · rw [hget, hlist, lastValue_cons, smallName_userAgent, if_neg hname.symm, Option.or_none]

/-- Two names come again in other letters, one of them that of the user agent. An entry with two
faults fails by its name, before the entry after it. -/
theorem new_headers_again :
    let given : List (String × String) := [("X-Id", "1"), ("USER-agent", "é"), ("x-ID", "2")]
    let wrong : List (String × String) := [("X-Id", "1"), ("a b", "\n"), ("c", "\n")]
    let options (list : List (String × String)) : Options :=
      { Options.base with headers := ("User-Agent", "netreq/0.1.0") :: list }
    let settings (list : List (String × String)) : List Setting := list.map fun x => .header x.1 x.2
    (Draft.ofSettings (settings given)).build = .ok (options given) ∧
      (∃ c, Client.new (options given) = .ok c ∧ c.options = options given ∧
        c.headers.get? "user-agent" = some [0xC3, 0xA9] ∧ c.headers.get? "x-id" = some [0x32]) ∧
      (Draft.ofSettings (settings wrong)).build = .ok (options wrong) ∧
      Client.new (options wrong) = .error .badHeaderName := by
  intro given wrong options settings
  have hgiven : (Draft.ofSettings (settings given)).build = .ok (options given) := rfl
  have hwrong : (Draft.ofSettings (settings wrong)).build = .ok (options wrong) := rfl
  obtain ⟨-, hfails, hmade⟩ := new_headers hgiven
  obtain ⟨herror, -, -⟩ := new_headers hwrong
  refine ⟨hgiven, ?_, hwrong, ?_⟩
  · cases hc : Client.new (options given) with
    | error e =>
      have hall : ∀ entry ∈ (options given).headers, IsHeader entry := by decide +kernel
      obtain ⟨entry, hentry, hnot⟩ := hfails.1 ⟨e, hc⟩
      exact absurd (hall entry hentry) hnot
    | ok c =>
      obtain ⟨hoptions, -, -, -, -, hagent, hother⟩ := hmade c hc
      refine ⟨c, rfl, hoptions, hagent.trans (by decide +kernel), ?_⟩
      exact (hother "x-id" (by decide)).trans (by decide +kernel)
  · have hbefore : ∀ x ∈ (options wrong).headers.take 2, IsHeader x := by decide +kernel
    have hname : ¬IsHeaderName "a b" := by decide +kernel
    exact (herror _).2 ⟨_, _, _, rfl, hbefore, .name hname⟩

end FetchKit.Http
