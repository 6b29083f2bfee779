import FetchKit.Proofs.Request.Arguments
import FetchKit.Proofs.Request.Synthesis
import FetchKit.Proofs.Source.Printed

/-!
# The address through source text

The generated code can be printed and scanned again, and what is then passed to `client.fetch` is
the address that the last `url` argument gave.
-/

namespace FetchKit.Request

open FetchKit.Source FetchKit.Text

/-! ## The generated code can be printed -/

theorem writable_rooted {names : List String} (h : ∀ n ∈ names, IsWordText n.toList) :
    Writable (rooted names) := by
  induction names with
  | nil => trivial
  | cons n ns ih =>
    have hcons : rooted (n :: ns) = operator "::" ++ [word n] ++ rooted ns := rfl
    have hrest := ih fun m hm => h m (List.mem_cons_of_mem n hm)
    have hcolons : Writable (operator "::") := writable_operator (by decide)
    have hword := word_writable (h n List.mem_cons_self)
    simp [hcons, writable_append, Writable, hcolons, hword, hrest]

theorem writable_resultOf {ident : Ident} (hident : IsSpelled ident) :
    Writable (resultOf ident) := by
  simp (disch := decide) [resultOf, writable_append, writable_rooted, writable_operator, Writable,
    Tree.Writable, hident]

theorem writable_asyncFn {ident name : Ident} {inputs body : List Tree} (hident : IsSpelled ident)
    (hname : IsSpelled name) (hinputs : Writable inputs) (hbody : Writable body) :
    Writable (asyncFn ident name inputs body) := by
  simp (disch := decide) [asyncFn, parens, braces, group, writable_append, writable_operator,
    word_writable, Writable, Tree.Writable, writable_resultOf hident, hname, hinputs, hbody]

theorem writable_sharedBody {ident name : Ident} (hident : IsSpelled ident)
    (hname : IsSpelled (withClientName name)) : Writable (sharedBody ident name) := by
  simp (disch := decide) [sharedBody, parens, group, writable_append, writable_operator,
    writable_rooted, word_writable, Writable, Tree.Writable, hident, hname]

theorem writable_fetchStatement (url : String) : Writable (fetchStatement url) := by
  have hurl : (stringLiteral url).Writable := ⟨url, rfl⟩
  simp (disch := decide) [fetchStatement, commas, parens, group, writable_append, writable_operator,
    word_writable, Writable, Tree.Writable, hurl]

theorem writable_decodeMatch {ident : Ident} (hident : IsSpelled ident) :
    Writable (decodeMatch ident) := by
  simp (disch := decide) [decodeMatch, resultOk, resultErr, commas, parens, braces, group,
    writable_append, writable_operator, writable_rooted, word_writable, Writable, Tree.Writable,
    hident]

theorem writable_clientInput : Writable clientInput := by
  simp (disch := decide) [clientInput, writable_append, writable_operator, writable_rooted,
    word_writable, Writable]

theorem writable_synthesize {ident : Ident} (hident : IsSpelled ident) {a : Arguments}
    (hname : IsSpelled a.name) : Writable (synthesize ident a) := by
  have hclient : IsSpelled (withClientName a.name) :=
    ⟨withClientName_isWordText hname, fun hraw => by cases hraw⟩
  have hshared : Writable (asyncFn ident a.name [] (sharedBody ident a.name)) :=
    writable_asyncFn hident hname trivial (writable_sharedBody hident hclient)
  have hfetching : Writable (asyncFn ident (withClientName a.name) clientInput
      (fetchStatement a.url ++ decodeMatch ident)) :=
    writable_asyncFn hident hclient writable_clientInput
      (writable_append.2 ⟨writable_fetchStatement a.url, writable_decodeMatch hident⟩)
  simp (disch := decide) [synthesize, braces, group, writable_append, word_writable, Writable,
    Tree.Writable, hident, hshared, hfetching]

/-! ## What is fetched -/

/-- Somewhere in the code, this literal is the argument of `client.fetch`. -/
inductive Fetches (text : String) : List Tree → Prop
  | here {client fetch : Ident} {joint dot span parens ts} (hclient : client.isWord "client" = true)
    (hfetch : fetch.isWord "fetch" = true) :
    Fetches text (.ident client :: .punct '.' joint dot :: .ident fetch ::
      .group .paren [.literal text span] parens :: ts)
  | inside {d content span ts} (h : Fetches text content) :
    Fetches text (.group d content span :: ts)
  | later {t ts} (h : Fetches text ts) : Fetches text (t :: ts)

theorem Fetches.append_left {text : String} {us : List Tree} (h : Fetches text us) (ts : List Tree) :
    Fetches text (ts ++ us) := by
  induction ts with
  | nil => exact h
  | cons t ts ih => exact .later ih

theorem Fetches.append_right {text : String} {ts : List Tree} (h : Fetches text ts)
    (us : List Tree) : Fetches text (ts ++ us) := by
  induction h with
  | here hclient hfetch => exact .here hclient hfetch
  | inside h => exact .inside h
  | later h ih => exact .later ih

theorem Fetches.mem_literalsOf {text : String} {ts : List Tree} (h : Fetches text ts) :
    text ∈ literalsOf ts := by
  induction h with
  | here hclient hfetch => simp [literalsOf, literalsIn]
  | inside h ih => simp [literalsOf, literalsIn, ih]
  | later h ih => simp [literalsOf, ih]

theorem Fetches.of_loose {text : String} {us ts : List Tree} (h : Fetches text ts)
    (heq : looseTrees us = looseTrees ts) : Fetches text us := by
  induction h generalizing us with
  | here hclient hfetch =>
    obtain ⟨t₁, us₁, rfl, h₁, heq₁⟩ := looseTrees_eq_cons heq
    obtain ⟨t₂, us₂, rfl, h₂, heq₂⟩ := looseTrees_eq_cons heq₁
    obtain ⟨t₃, us₃, rfl, h₃, heq₃⟩ := looseTrees_eq_cons heq₂
    obtain ⟨t₄, us₄, rfl, h₄, -⟩ := looseTrees_eq_cons heq₃
    obtain ⟨client, rfl, hname, hraw⟩ := looseTree_eq_ident h₁
    obtain ⟨joint, dot, rfl⟩ := looseTree_eq_punct h₂
    obtain ⟨fetch, rfl, hname', hraw'⟩ := looseTree_eq_ident h₃
    obtain ⟨content, place, rfl, hcontent⟩ := looseTree_eq_group h₄
    obtain ⟨t₅, us₅, rfl, h₅, hend⟩ := looseTrees_eq_cons hcontent
    obtain ⟨span, rfl⟩ := looseTree_eq_literal h₅
    obtain rfl : us₅ = [] := by
      cases us₅ with
      | nil => rfl
      | cons t ts => simp [looseTrees] at hend
    refine .here ?_ ?_
    · rw [Ident.isWord, hname, hraw]
      exact hclient
    · rw [Ident.isWord, hname', hraw']
      exact hfetch
  | inside h ih =>
    obtain ⟨_, us, rfl, hu, -⟩ := looseTrees_eq_cons heq
    obtain ⟨content, span, rfl, hcontent⟩ := looseTree_eq_group hu
    exact .inside (ih hcontent)
  | later h ih =>
    obtain ⟨_, us, rfl, -, heq⟩ := looseTrees_eq_cons heq
    exact .later (ih heq)

mutual

theorem literalsIn_looseTree : ∀ t : Tree, literalsIn (looseTree t) = literalsIn t
  | .ident _ => rfl
  | .punct _ _ _ => rfl
  | .literal _ _ => rfl
  | .group _ content _ => by
    rw [looseTree, literalsIn, literalsIn]
    exact literalsOf_looseTrees content

theorem literalsOf_looseTrees : ∀ ts : List Tree, literalsOf (looseTrees ts) = literalsOf ts
  | [] => rfl
  | t :: ts => by
    rw [looseTrees, literalsOf, literalsOf, literalsIn_looseTree t, literalsOf_looseTrees ts]

end

theorem fetches_synthesize (ident : Ident) (a : Arguments) :
    Fetches (quote a.url) (synthesize ident a) := by
  have hcall : Fetches (quote a.url) (fetchStatement a.url) := by
    have hsplit : fetchStatement a.url =
        ([word "let"] ++ parens (commas [[word "__url"], [word "__data"]]) ++ operator "=") ++
          (word "client" :: .punct '.' false .callSite :: word "fetch" ::
            .group .paren [stringLiteral a.url] .callSite :: (operator "." ++ [word "await"] ++
              operator "?" ++ operator ";")) := by
      simp [fetchStatement, parens, group]
      rfl
    rw [hsplit]
    exact Fetches.append_left (.here (by decide) (by decide)) _
  have hbody := hcall.append_right (decodeMatch ident)
  have hfn : Fetches (quote a.url) (asyncFn ident (withClientName a.name) clientInput
      (fetchStatement a.url ++ decodeMatch ident)) := by
    exact Fetches.append_left (.inside hbody) _
  have himpl := hfn.append_left (asyncFn ident a.name [] (sharedBody ident a.name))
  exact Fetches.append_left (.inside himpl) _

theorem literalsOf_synthesize (ident : Ident) (a : Arguments) :
    literalsOf (synthesize ident a) = [quote a.url] := by
  have hfetching := literalsOf_fetching ident a.url
  rw [literalsOf_append] at hfetching
  simp [synthesize, asyncFn, sharedBody, resultOf, clientInput, parens, braces, group, word,
    literalsOf_append, literalsOf_operator, literalsOf_rooted, literalsOf, literalsIn, hfetching]

/-! ## The last address -/

theorem IsEntry.eq_three {piece : List Tree} {e : Entry} (h : IsEntry piece e) :
    ∃ key joint place text span,
      piece = [.ident key, .punct '=' joint place, .literal text span] := by
  cases h with
  | url hkey htext => exact ⟨_, _, _, _, _, rfl⟩
  | name hkey htext hscan hname => exact ⟨_, _, _, _, _, rfl⟩

theorem IsEntry.url?_eq_none {piece : List Tree} {e : Entry} (h : IsEntry piece e)
    (hnone : ∀ i, .ident i ∈ piece → i.isWord "url" = false) : e.url? = none := by
  cases h with
  | url hkey htext => simp [hnone] at hkey
  | name hkey htext hscan hname => rfl

theorem IsEntry.url_of_key {key : Ident} {joint : Bool} {place span : Span} {text : String}
    {e : Entry} (h : IsEntry [.ident key, .punct '=' joint place, .literal text span] e)
    (hkey : key.isWord "url" = true) : ∃ value, unquote text = some value ∧ e = .url value := by
  cases h with
  | url _ htext => exact ⟨_, unquote_eq_some_iff.2 htext, rfl⟩
  | name hname =>
    have hurl := isWord_of_isWord hname "url"
    rw [hkey] at hurl
    cases hurl

theorem Entries.no_url {ts : List Tree} {es : List Entry} (h : Entries ts es)
    (hnone : ∀ i, .ident i ∈ ts → i.isWord "url" = false) : es.filterMap Entry.url? = [] := by
  induction h with
  | nil => rfl
  | last he => simp [he.url?_eq_none hnone]
  | more he hes ih =>
    have hfirst := he.url?_eq_none fun i hi => hnone i (List.mem_append_left _ hi)
    have hmore := ih fun i hi => hnone i (List.mem_append_right _ (List.mem_cons_of_mem _ hi))
    simp [hfirst, hmore]

theorem Entries.last_url {ts : List Tree} {es : List Entry} (h : Entries ts es)
    {before after : List Tree} {key : Ident} {joint : Bool} {place span : Span} {text : String}
    (hts : ts = before ++ [.ident key, .punct '=' joint place, .literal text span] ++ after)
    (hkey : key.isWord "url" = true) (hlast : ∀ i, .ident i ∈ after → i.isWord "url" = false) :
    ∃ value, unquote text = some value ∧ (es.filterMap Entry.url?).getLast? = some value := by
  induction h generalizing before with
  | nil => simp at hts
  | last he =>
    obtain ⟨_, _, _, _, _, rfl⟩ := he.eq_three
    have hlength := congrArg List.length hts
    simp only [List.length_append, List.length_cons, List.length_nil] at hlength
    obtain rfl : before = [] := List.length_eq_zero_iff.1 (by omega)
    obtain rfl : after = [] := List.length_eq_zero_iff.1 (by omega)
    rw [hts] at he
    obtain ⟨value, hvalue, rfl⟩ := he.url_of_key hkey
    exact ⟨value, hvalue, rfl⟩
  | more he hes ih =>
    obtain ⟨_, _, _, _, _, rfl⟩ := he.eq_three
    -- The key starts this entry, or it stands after the comma.
    rcases before with _ | ⟨t₁, _ | ⟨t₂, _ | ⟨t₃, _ | ⟨t₄, before⟩⟩⟩⟩
    · injection hts with h₁ hts
      injection hts with h₂ hts
      injection hts with h₃ hts
      rw [h₁, h₂, h₃] at he
      obtain ⟨value, hvalue, rfl⟩ := he.url_of_key hkey
      change _ :: _ = after at hts
      subst hts
      have hmore := hes.no_url fun i hi => hlast i (List.mem_cons_of_mem _ hi)
      rw [List.filterMap_cons, Entry.url?, hmore]
      exact ⟨value, hvalue, rfl⟩
    · simp at hts
    · simp at hts
    · simp at hts
    · injection hts with _ hts
      injection hts with _ hts
      injection hts with _ hts
      injection hts with _ hts
      obtain ⟨value, hvalue, hget⟩ := ih hts
      refine ⟨value, hvalue, ?_⟩
      rw [List.filterMap_cons]
      split
      · exact hget
      · rw [List.getLast?_cons, hget]
        rfl

theorem parse_last_url {before after : List Tree} {key : Ident} {joint : Bool} {place span : Span}
    {text : String} {a : Arguments} (hkey : key.isWord "url" = true)
    (hlast : ∀ i, .ident i ∈ after → i.isWord "url" = false)
    (ha : Arguments.parse
      (before ++ [.ident key, .punct '=' joint place, .literal text span] ++ after) = .ok a) :
    unquote text = some a.url := by
  unfold Arguments.parse at ha
  split at ha
  · next es hes =>
    cases ha
    obtain ⟨value, hvalue, hget⟩ := (readEntries_sound hes).last_url rfl hkey hlast
    rw [ofEntries_eq, hget]
    exact hvalue
  · cases ha

/-! ## The whole -/

/-- For every type and all arguments in which `text` is the last literal after `url =`, the printed
code is scanned as the generated trees, the scanned code passes a literal to `client.fetch`, and
every literal that it passes there has the value of `text`. -/
theorem printed_fetches_url {ident : Ident} (hident : IsSpelled ident) {before after : List Tree}
    {key : Ident} {joint : Bool} {place span : Span} {text : String} {a : Arguments}
    (hkey : key.isWord "url" = true) (hlast : ∀ i, .ident i ∈ after → i.isWord "url" = false)
    (ha : Arguments.parse
      (before ++ [.ident key, .punct '=' joint place, .literal text span] ++ after) = .ok a) :
    ∃ code, scan (textOf (synthesize ident a)) = some code ∧
      looseTrees code = looseTrees (synthesize ident a) ∧
      (∃ fetched, Fetches fetched code) ∧
      (∀ fetched, Fetches fetched code → unquote fetched = unquote text) ∧
      unquote text = some a.url := by
  have hname := (parse_legalName ha).2
  have htext := parse_last_url hkey hlast ha
  obtain ⟨code, hscan, hloose⟩ := scan_textOf (writable_synthesize hident hname)
  have hliterals : literalsOf code = [quote a.url] := by
    rw [← literalsOf_looseTrees, hloose, literalsOf_looseTrees, literalsOf_synthesize]
  have hfetches := (fetches_synthesize ident a).of_loose hloose
  refine ⟨code, hscan, hloose, ⟨_, hfetches⟩, fun fetched hfetched => ?_, htext⟩
  have hmem := hfetched.mem_literalsOf
  rw [hliterals, List.mem_singleton] at hmem
  rw [hmem, htext, unquote_quote]

/-- A raw type and name, and an address with a NUL before a digit, quotes, a backslash, line ends, a
tab, a mark that joins the character before it and a character with nothing to show. -/
theorem printed_fetches_url_escapes :
    let url := "\x001\"'\\\r\n\t\u0301\u200b"
    let attr := [word "name", .punct '=' false .callSite, .literal "r\"r#match\"" .callSite,
      .punct ',' false .callSite, word "url", .punct '=' false .callSite, stringLiteral url]
    Arguments.parse attr = .ok { url, name := ⟨"match", true, .callSite⟩ } ∧
      ∃ code, scan (textOf (synthesize ⟨"union", true, .callSite⟩
          { url, name := ⟨"match", true, .callSite⟩ })) = some code ∧
        ∀ fetched, Fetches fetched code → unquote fetched = some url := by
  intro url attr
  have hparse : Arguments.parse attr = .ok { url, name := ⟨"match", true, .callSite⟩ } := by
    decide +kernel
  have hident : IsSpelled ⟨"union", true, .callSite⟩ := ⟨by decide, by decide⟩
  obtain ⟨code, hscan, -, -, hfetched, htext⟩ :=
    @printed_fetches_url _ hident (attr.take 4) [] _ _ _ _ _ _ (by decide) (by simp) hparse
  exact ⟨hparse, code, hscan, fun fetched h => (hfetched fetched h).trans htext⟩

end FetchKit.Request
