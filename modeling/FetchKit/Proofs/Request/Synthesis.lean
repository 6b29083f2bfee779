import FetchKit.Proofs.Request.Arguments
import FetchKit.Proofs.Request.Template
import FetchKit.Proofs.Source.Word
import FetchKit.Proofs.Text.Quoted

/-!
# The generated code is valid

Whatever the type and the arguments are, the generated code is read whole as one `impl` block with
the two functions, and the type, the name and the address can be read back from it.
-/

namespace FetchKit.Request

open FetchKit.Source FetchKit.Grammar

/-! ## Names -/

/-- A name that is no keyword and that can be written. -/
def LegalName (i : Ident) : Prop := i.isName = true ∧ IsSpelled i

theorem IsEntry.legalName {piece : List Tree} {i : Ident} (h : IsEntry piece (.name i)) :
    LegalName i := by
  cases h with
  | name hkey htext hscan hname =>
    have hspelled := scan_isSpelled hscan (List.mem_singleton.2 rfl)
    exact ⟨hname, hspelled.1, hspelled.2⟩

theorem Entries.legalName {ts : List Tree} {es : List Entry} (h : Entries ts es) {i : Ident}
    (hi : .name i ∈ es) : LegalName i := by
  induction h with
  | nil => cases hi
  | last he =>
    rw [List.mem_singleton] at hi
    subst hi
    exact he.legalName
  | more he hes ih =>
    rcases List.mem_cons.1 hi with rfl | hi
    · exact he.legalName
    · exact ih hi

theorem foldl_apply_legalName {es : List Entry} (hes : ∀ i, .name i ∈ es → LegalName i)
    {a : Arguments} (ha : LegalName a.name) : LegalName (es.foldl Entry.apply a).name := by
  induction es generalizing a with
  | nil => exact ha
  | cons e es ih =>
    refine ih (fun i hi => hes i (List.mem_cons_of_mem e hi)) ?_
    cases e with
    | url value => exact ha
    | name i => exact hes i List.mem_cons_self

theorem parse_legalName {ts : List Tree} {a : Arguments} (h : Arguments.parse ts = .ok a) :
    LegalName a.name := by
  unfold Arguments.parse at h
  split at h
  · next es hes =>
    cases h
    have hdefault : LegalName ({} : Arguments).name := ⟨by decide, by decide, by decide⟩
    exact foldl_apply_legalName (fun i hi => (readEntries_sound hes).legalName hi) hdefault
  · cases h

/-! ### The name of the function that takes a client -/

theorem withClientName_isName (name : Ident) : (withClientName name).isName = true := by
  have hsuffix : ∀ w ∈ reservedWords, ¬"_with".toList <:+ w.toList := by decide
  simp only [withClientName, Ident.isName, Bool.false_or, Bool.not_eq_true']
  rw [← Bool.not_eq_true, List.contains_iff_mem]
  intro hmem
  refine hsuffix _ hmem ⟨name.name.toList, ?_⟩
  rw [String.toList_append]

theorem withClientName_isWordText {name : Ident} (h : IsSpelled name) :
    IsWordText (withClientName name).text.toList := by
  obtain ⟨⟨c, rest, hname, hc, hrest⟩, -⟩ := h
  have hwith : "_with".toList.all Text.isWordPart = true := by decide
  refine ⟨c, rest ++ "_with".toList, ?_, hc, fun d hd => ?_⟩
  · simp [withClientName, Ident.text, hname]
  · exact (List.mem_append.1 hd).elim (hrest d) (List.all_eq_true.1 hwith d)

theorem withClientName_name_ne (name : Ident) : (withClientName name).name ≠ name.name := by
  simp [withClientName]

theorem withClientName_text_ne (name : Ident) : (withClientName name).text ≠ name.text := by
  intro h
  have hlength := congrArg String.length h
  have hwith : "_with".length = 5 := by decide
  have hraw : "r#".length = 2 := by decide
  simp only [withClientName, Ident.text, Bool.false_eq_true, if_false,
    String.length_append] at hlength
  split at hlength
  · rw [String.length_append] at hlength
    omega
  · omega

/-! ## Reading back -/

mutual

/-- The literals in a tree. -/
def literalsIn : Tree → List String
  | .literal text _ => [text]
  | .group _ content _ => literalsOf content
  | _ => []

/-- All literals, those in groups too. -/
def literalsOf : List Tree → List String
  | [] => []
  | t :: ts => literalsIn t ++ literalsOf ts

end

/-- The type, the name and the address that code was generated for. -/
def readBack (code : List Tree) : Option (Ident × Ident × String) :=
  match Item.parse code with
  | .ok (.impl ⟨_, _, [.ident ident], [.method shared, .method fetching]⟩) =>
    match literalsOf fetching.body with
    | [text] => (Text.unquote text).map fun url => (ident, shared.ident, url)
    | _ => none
  | _ => none

theorem literalsOf_append (ts us : List Tree) :
    literalsOf (ts ++ us) = literalsOf ts ++ literalsOf us := by
  induction ts with
  | nil => rfl
  | cons t ts ih => simp [literalsOf, ih]

theorem literalsOf_operator (s : String) : literalsOf (operator s) = [] := by
  unfold operator
  fun_induction operator.go s.toList with
  | case1 => rfl
  | case2 c => rfl
  | case3 c cs hcs ih => simpa [literalsOf, literalsIn] using ih

theorem literalsOf_rooted (names : List String) : literalsOf (rooted names) = [] := by
  induction names with
  | nil => rfl
  | cons n ns ih =>
    have : rooted (n :: ns) = operator "::" ++ [word n] ++ rooted ns := rfl
    simp [this, literalsOf_append, literalsOf_operator, ih, literalsOf, literalsIn, word]

theorem literalsOf_fetching (ident : Ident) (url : String) :
    literalsOf (fetchStatement url ++ decodeMatch ident) = [Text.quote url] := by
  simp [fetchStatement, decodeMatch, resultOk, resultErr, commas, parens, braces, literalsOf_append,
    literalsOf_operator, literalsOf_rooted, literalsOf, literalsIn, word, group, stringLiteral]

theorem readBack_synthesize {ident : Ident} (hident : ident.isName = true) {a : Arguments}
    (ha : a.name.isName = true) : readBack (synthesize ident a) = some (ident, a.name, a.url) := by
  have hparse := parse_synthesize hident ha (withClientName_isName a.name)
  have hliterals : literalsOf (clientMethod ident a).body = [Text.quote a.url] := by
    simpa [clientMethod, publicAsyncMethod, literalsOf, literalsIn, group] using
      literalsOf_fetching ident a.url
  unfold readBack
  rw [hparse]
  simp [hliterals, Text.unquote_quote, sharedMethod, publicAsyncMethod]

/-! ## Code without its places -/

def bareIdent (i : Ident) : Ident := { i with span := .callSite }

mutual

def bareTree : Tree → Tree
  | .ident i => .ident (bareIdent i)
  | .punct c joint _ => .punct c joint .callSite
  | .literal text _ => .literal text .callSite
  | .group d content _ => .group d (bareTrees content) .callSite

/-- The trees as if they were written in no source text. -/
def bareTrees : List Tree → List Tree
  | [] => []
  | t :: ts => bareTree t :: bareTrees ts

end

theorem bareTrees_append (ts us : List Tree) :
    bareTrees (ts ++ us) = bareTrees ts ++ bareTrees us := by
  induction ts with
  | nil => rfl
  | cons t ts ih => simp [bareTrees, ih]

theorem bareTrees_operator (s : String) : bareTrees (operator s) = operator s := by
  unfold operator
  fun_induction operator.go s.toList with
  | case1 => rfl
  | case2 c => rfl
  | case3 c cs hcs ih => simpa [bareTrees, bareTree] using ih

theorem bareTrees_rooted (names : List String) : bareTrees (rooted names) = rooted names := by
  induction names with
  | nil => rfl
  | cons n ns ih =>
    have hcons : rooted (n :: ns) = operator "::" ++ [word n] ++ rooted ns := rfl
    simp [hcons, bareTrees_append, bareTrees_operator, ih, bareTrees, bareTree, word, bareIdent]

theorem bareTrees_synthesize (ident : Ident) (a : Arguments) : bareTrees (synthesize ident a) =
    synthesize (bareIdent ident) { a with name := bareIdent a.name } := by
  -- Nothing but the type and the name has a place of its own.
  simp [synthesize, asyncFn, sharedBody, resultOf, clientInput, fetchStatement, decodeMatch, resultOk,
    resultErr, commas, parens, braces, bareTrees_append, bareTrees_operator, bareTrees_rooted,
    bareTrees, bareTree, word, group, stringLiteral, withClientName, bareIdent]

theorem readBack_bareTrees {ident : Ident} (hident : ident.isName = true) {a : Arguments}
    (ha : a.name.isName = true) : readBack (bareTrees (synthesize ident a)) =
      some (bareIdent ident, bareIdent a.name, a.url) := by
  have hident' : (bareIdent ident).isName = true := hident
  have ha' : ({ a with name := bareIdent a.name } : Arguments).name.isName = true := ha
  rw [bareTrees_synthesize]
  exact readBack_synthesize hident' ha'

/-! ## The two functions -/

/-- A public asynchronous function without generics that returns `::netreq::Result<T>`. -/
structure IsRequest (ident name : Ident) (inputs : List Tree) (m : Method) : Prop where
  visible : m.visible = [word "pub"]
  isAsync : m.isAsync = true
  named : m.ident = name
  generic : m.generic = false
  takes : m.inputs = parens inputs
  gives : m.output = operator "->" ++
    (rooted ["netreq", "Result"] ++ operator "<" ++ [.ident ident] ++ operator ">")

theorem isRequest_publicAsync (ident name : Ident) (inputs body : List Tree) :
    IsRequest ident name inputs (publicAsyncMethod name inputs (resultOf ident) body) :=
  ⟨rfl, rfl, rfl, rfl, rfl, rfl⟩

/-- The body is a call of `T::name`. -/
def CallsMethod (ident name : Ident) (body : List Tree) : Prop :=
  ∃ arguments after, body =
    braces ([.ident ident] ++ operator "::" ++ [.ident name] ++ parens arguments ++ after)

/-- The one literal of the body is the argument of `client.fetch`, and its value is the address. -/
def FetchesOnly (url : String) (body : List Tree) : Prop :=
  ∃ before text span after, body =
      braces (before ++ [word "client"] ++ operator "." ++ [word "fetch"] ++
        parens [.literal text span] ++ after) ∧
    literalsOf body = [text] ∧ Text.unquote text = some url

/-- The body decodes with `from_slice::<T>`. -/
def DecodesAs (ident : Ident) (body : List Tree) : Prop :=
  ∃ before arguments after, body =
    braces (before ++ rooted ["netreq", "serde_json", "from_slice"] ++ operator "::" ++
      operator "<" ++ [.ident ident] ++ operator ">" ++ parens arguments ++ after)

theorem sharedBody_calls (ident name : Ident) :
    CallsMethod ident (withClientName name) (braces (sharedBody ident name)) :=
  ⟨rooted ["netreq", "HttpClient", "shared"] ++ parens [] ++ operator "?",
    operator "." ++ [word "await"], by simp [sharedBody]⟩

theorem fetching_fetchesOnly (ident : Ident) (url : String) :
    FetchesOnly url (braces (fetchStatement url ++ decodeMatch ident)) := by
  refine ⟨[word "let"] ++ parens (commas [[word "__url"], [word "__data"]]) ++ operator "=",
    Text.quote url, .callSite, operator "." ++ [word "await"] ++ operator "?" ++ operator ";" ++
      decodeMatch ident, ?_, ?_, Text.unquote_quote url⟩
  · simp [fetchStatement, stringLiteral]
  · simpa [braces, group, literalsOf, literalsIn] using literalsOf_fetching ident url

theorem fetching_decodesAs (ident : Ident) (url : String) :
    DecodesAs ident (braces (fetchStatement url ++ decodeMatch ident)) := by
  refine ⟨fetchStatement url ++ [word "match"], operator "&" ++ [word "__data"],
    [group .brace decodeArms], ?_⟩
  simp [decodeMatch_eq, decodeCall, parens]

/-! ## The whole -/

/-- The generated code is read whole as one `impl` block of the type, without generics and for no
trait, with the two functions. The name of the second is a legal one of its own. The type, the name
and the address can be read back, and other ones give other code, wherever they were written. -/
theorem synthesize_valid {ident : Ident} (hident : ident.isName = true) {ts : List Tree}
    {a : Arguments} (ha : Arguments.parse ts = .ok a) :
    (∃ shared fetching, Item.parse (synthesize ident a) =
        .ok (.impl ⟨{}, false, [.ident ident], [.method shared, .method fetching]⟩) ∧
      IsRequest ident a.name [] shared ∧
      CallsMethod ident (withClientName a.name) shared.body ∧
      IsRequest ident (withClientName a.name)
        ([word "client"] ++ operator ":" ++ operator "&" ++ rooted ["netreq", "HttpClient"])
        fetching ∧
      FetchesOnly a.url fetching.body ∧ DecodesAs ident fetching.body) ∧
    ((withClientName a.name).name = a.name.name ++ "_with" ∧
      (withClientName a.name).raw = false ∧ (withClientName a.name).isName = true ∧
      (withClientName a.name).name ≠ a.name.name ∧ (withClientName a.name).text ≠ a.name.text ∧
      ∃ span, scan (withClientName a.name).text = some [.ident { withClientName a.name with span }]) ∧
    readBack (synthesize ident a) = some (ident, a.name, a.url) ∧
    ∀ ident' ts' a', ident'.isName = true → Arguments.parse ts' = .ok a' →
      bareTrees (synthesize ident a) = bareTrees (synthesize ident' a') →
      bareIdent ident = bareIdent ident' ∧ bareIdent a.name = bareIdent a'.name ∧ a.url = a'.url := by
  obtain ⟨hname, hword⟩ := parse_legalName ha
  have hclient := withClientName_isName a.name
  refine ⟨⟨sharedMethod ident a, clientMethod ident a, parse_synthesize hident hname hclient, ?_⟩,
    ⟨rfl, rfl, hclient, withClientName_name_ne a.name, withClientName_text_ne a.name, ?_⟩,
    readBack_synthesize hident hname, ?_⟩
  · exact ⟨isRequest_publicAsync ident _ _ _, sharedBody_calls ident a.name,
      isRequest_publicAsync ident _ _ _, fetching_fetchesOnly ident a.url,
      fetching_decodesAs ident a.url⟩
  · exact ⟨_, scan_word (withClientName_isWordText hword)⟩
  · -- Equal code without its places gives equal answers when it is read back.
    intro ident' ts' a' hident' ha' hcode
    have hread := readBack_bareTrees hident hname
    rw [hcode, readBack_bareTrees hident' (parse_legalName ha').1] at hread
    simp only [Option.some.injEq, Prod.mk.injEq] at hread
    exact ⟨hread.1.symm, hread.2.1.symm, hread.2.2.symm⟩

/-- A type and a function that are named by words with a meaning of their own. -/
theorem synthesize_valid_union :
    Ident.isName ⟨"union", false, .callSite⟩ = true ∧
      Arguments.parse [word "name", .punct '=' false .callSite, stringLiteral "r#match"] =
        .ok { name := ⟨"match", true, .callSite⟩ } ∧
      readBack (synthesize ⟨"union", false, .callSite⟩ { name := ⟨"match", true, .callSite⟩ }) =
        some (⟨"union", false, .callSite⟩, ⟨"match", true, .callSite⟩, "https://api/get") := by
  have hunion : Ident.isName ⟨"union", false, .callSite⟩ = true := by decide
  have hparse : Arguments.parse [word "name", .punct '=' false .callSite, stringLiteral "r#match"] =
      .ok { name := ⟨"match", true, .callSite⟩ } := by
    decide +kernel
  exact ⟨hunion, hparse, (synthesize_valid hunion hparse).2.2.1⟩

end FetchKit.Request
