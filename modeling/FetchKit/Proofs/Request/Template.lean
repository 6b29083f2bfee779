import FetchKit.Proofs.Grammar.Members
import FetchKit.Request.Synthesis

/-!
# The parts of the generated code

Each part of the generated code is a phrase that the rules take whole, whatever the type, the name
and the address are. The level of the rules is counted from the innermost part outwards.
-/

namespace FetchKit.Request

open FetchKit.Source FetchKit.Grammar Rule

attribute [local simp] startsOperator_nil startsOperator_ident startsOperator_literal
  startsOperator_group startsOperator_last startsOperator_cons startsWord startsName startsAnyIdent
  startsGroup word group operator operator.go parens braces

variable {ident : Ident} {g : Rules}

/-! ## Paths from the root -/

/-- Words that are names as they stand. -/
def AreNames (ws : List String) : Prop := ∀ w ∈ ws, Ident.isName { name := w } = true

instance (ws : List String) : Decidable (AreNames ws) :=
  inferInstanceAs (Decidable (∀ w ∈ ws, _ = _))

def plainIdents (ws : List String) : List Ident := ws.map fun w => { name := w }

theorem AreNames.head {w : String} {ws : List String} (h : AreNames (w :: ws)) :
    Ident.isName { name := w } = true :=
  h w List.mem_cons_self

theorem AreNames.tail {w : String} {ws : List String} (h : AreNames (w :: ws)) : AreNames ws :=
  fun v hv => h v (List.mem_cons_of_mem w hv)

theorem AreNames.plainIdents {ws : List String} (h : AreNames ws) :
    ∀ i ∈ plainIdents ws, i.isName = true := by
  intro i hi
  obtain ⟨w, hw, rfl⟩ := List.mem_map.1 hi
  exact h w hw

theorem rooted_cons (w : String) (ws : List String) :
    rooted (w :: ws) = lead true ++ .ident { name := w } :: pathTail (plainIdents ws) := by
  simp [rooted, lead, pathTail, plainIdents, List.flatMap_map]

theorem expr_reads_rooted {n : Nat} {allowStruct : Bool} {w : String} {ws : List String}
    (hws : AreNames (w :: ws)) {content us rest : List Tree} {shapes : List ExprShape}
    {shape : ExprShape} (h : Reads (terminated ((rules n).expr true)) content [] shapes)
    (hus : Loops (trailer (rules n)) .other us rest shape) (hrest : EndsExpr rest) :
    Reads ((rules (n + 1)).expr allowStruct) (rooted (w :: ws) ++ group .paren content :: us) rest
      shape := by
  rw [rooted_cons]
  exact expr_reads (unary_reads_call allowStruct true hws.head hws.tail.plainIdents h hus) hrest

theorem bounded_reads_rooted {n : Nat} {w : String} {ws : List String}
    (hws : AreNames (w :: ws)) {content rest : List Tree} {shapes : List ExprShape}
    (h : Reads (terminated ((rules n).expr true)) content [] shapes) (hrest : EndsExpr rest) :
    Reads (rules (n + 1)).bounded (rooted (w :: ws) ++ [group .paren content]) rest .other := by
  rw [rooted_cons]
  exact bounded_reads_call true hws.head hws.tail.plainIdents h
    (loops_trailer_done (rules n) hrest .other) hrest

/-! ## Names -/

theorem unary_reads_word (g : Rules) {w : String} (hw : AreNames [w]) {us rest : List Tree}
    {shape : ExprShape} (hus : Loops (trailer g) .other us rest shape)
    (hends : EndsPath (us ++ rest)) (hhash : startsOperator ['#'] (us ++ rest) = false)
    (hbang : startsOperator ['!'] (us ++ rest) = false)
    (hbrace : startsGroup .brace (us ++ rest) = false) :
    Reads (unaryRule g true) (word w :: us) rest shape := by
  have hpath := path_reads_names g true false hw.head (List.forall_mem_nil _) hends
  have hhash' : startsOperator ['#'] (pathTail [] ++ (us ++ rest)) = false := hhash
  have hunary : Reads (unaryRule g true) _ rest shape :=
    unary_reads_path false hw.head hpath hhash' hbang (fun _ => hbrace) hus
  simpa [lead, pathTail] using hunary

/-- Where an argument ends. -/
inductive EndsArgument : List Tree → Prop
  | nil : EndsArgument []
  | comma {joint span rest} : EndsArgument (.punct ',' joint span :: rest)

theorem EndsArgument.endsExpr {rest : List Tree} (h : EndsArgument rest) : EndsExpr rest := by
  cases h <;> constructor

theorem unary_reads_argument (g : Rules) {w : String} (hw : AreNames [w]) {rest : List Tree}
    (hrest : EndsArgument rest) : Reads (unaryRule g true) [word w] rest .other := by
  refine unary_reads_word g hw (loops_trailer_done g hrest.endsExpr .other) ?_ ?_ ?_ ?_
  · cases hrest <;> simp [EndsPath]
  · cases hrest <;> simp
  · cases hrest <;> simp
  · cases hrest <;> simp

theorem expr_reads_argument (n : Nat) {w : String} (hw : AreNames [w]) {rest : List Tree}
    (hrest : EndsArgument rest) : Reads ((rules (n + 1)).expr true) [word w] rest .other :=
  expr_reads (unary_reads_argument (rules n) hw hrest) hrest.endsExpr

theorem expr_reads_borrow (n : Nat) {w : String} (hw : AreNames [w])
    (hraw : Ident.isWord { name := w } "raw" = false) {rest : List Tree} (hrest : EndsArgument rest) :
    Reads ((rules (n + 2)).expr true) (operator "&" ++ [word w]) rest .other := by
  have hword := unary_reads_argument (rules n) hw hrest
  exact expr_reads (unary_reads_borrow (g := rules (n + 1)) hw.head hraw hword) hrest.endsExpr

/-! ## Types -/

theorem type_reads_ident (n : Nat) (plus : Bool) (hident : ident.isName = true) {rest : List Tree}
    (hends : EndsPath rest) (hhash : startsOperator ['#'] rest = false) (hrest : EndsType rest) :
    Reads ((rules (n + 1)).type plus) [.ident ident] rest (.path ⟨false, [{ ident }]⟩) := by
  have hpath : Reads (path (rules n) false) [.ident ident] rest _ :=
    path_reads_names (rules n) false false hident (List.forall_mem_nil _) hends
  exact type_reads_path plus false hident hpath hhash hrest

theorem angle_reads_ident (n : Nat) (hident : ident.isName = true) (rest : List Tree) :
    Reads (rules (n + 2)).angle (operator "<" ++ .ident ident :: operator ">") rest () := by
  refine angle_reads_name hident (type_reads_ident n true hident ?_ ?_ ?_)
  · simp [EndsPath]
  · simp
  · simp [EndsType]

theorem path_reads_typed (n : Nat) (inExpr : Bool) {w v : String} {ws : List String}
    (hws : AreNames (w :: ws)) (hv : AreNames [v]) (hident : ident.isName = true) :
    ∃ p, ∀ rest, EndsPath rest → Reads (path (rules (n + 2)) inExpr)
      (lead true ++ .ident { name := w } :: (pathTail (plainIdents (ws ++ [v])) ++
        (lead inExpr ++ (operator "<" ++ .ident ident :: operator ">")))) rest p := by
  rw [plainIdents, List.map_append]
  exact ⟨_, fun rest hrest => path_reads_angle true hws.head hws.tail.plainIdents hv.head
    (angle_reads_ident n hident rest) hrest⟩

theorem type_reads_result (n : Nat) (hident : ident.isName = true) (body : List Tree) :
    ∃ shape, ∀ rest,
      Reads ((rules (n + 3)).type true) (resultOf ident) (group .brace body :: rest) shape := by
  have hws : AreNames ["netreq"] := by decide
  have hv : AreNames ["Result"] := by decide
  obtain ⟨p, hpath⟩ := path_reads_typed n false hws hv hident
  refine ⟨.path p, fun rest => ?_⟩
  have hpath := hpath (group .brace body :: rest) (by simp [EndsPath])
  have htype : Reads ((rules (n + 3)).type true) _ (group .brace body :: rest) (.path p) :=
    type_reads_path true true hws.head hpath (by simp [pathTail, plainIdents]) (by simp [EndsType])
  simpa [resultOf, rooted_cons, lead] using htype

theorem arguments_read_client (n : Nat) : Reads (arguments (rules (n + 2))) clientInput [] () := by
  have hclient : AreNames ["client"] := by decide
  have hnames : AreNames ["netreq", "HttpClient"] := by decide
  have hpath := path_reads_names (rules n) false true hnames.head hnames.tail.plainIdents
    (show EndsPath [] by simp [EndsPath])
  have htype := type_reads_path false true hnames.head hpath (by simp [pathTail, plainIdents])
    (by simp [EndsType])
  have href : Reads ((rules (n + 2)).type true) (operator "&" ++ (lead true ++
      .ident { name := "netreq" } :: pathTail (plainIdents ["HttpClient"]))) [] .other :=
    type_reads_reference true htype
  have hpattern : Reads (rules (n + 2)).pattern [word "client"]
      (operator ":" ++ (operator "&" ++ rooted ["netreq", "HttpClient"])) .other :=
    pattern_reads_name (rules (n + 1)) hclient.head (by simp [EndsName])
  rw [← rooted_cons] at href
  exact arguments_reads_one hclient.head hpattern href rfl

/-! ## The body of the function that takes no client -/

theorem statements_read_shared (n : Nat) (hident : ident.isName = true) {name : Ident}
    (hname : (withClientName name).isName = true) :
    Reads (rules (n + 3)).statements (sharedBody ident name) [] () := by
  have hnames : AreNames ["netreq", "HttpClient", "shared"] := by decide
  have hshared : Reads ((rules (n + 1)).expr true)
      (rooted ["netreq", "HttpClient", "shared"] ++ group .paren [] :: operator "?") [] .other :=
    expr_reads_rooted hnames (terminated_reads_nil _)
      (loops_trailer_question (by simp) (loops_trailer_done (rules n) .nil .other)) .nil
  have his : ∀ i ∈ [withClientName name], i.isName = true := by simpa using hname
  have hbody : sharedBody ident name = lead false ++ .ident ident :: pathTail [withClientName name] ++
      group .paren (rooted ["netreq", "HttpClient", "shared"] ++ group .paren [] :: operator "?") ::
        (operator "." ++ [word "await"]) := by
    simp [sharedBody, lead, pathTail]
  have hbounded : Reads (rules (n + 2)).bounded (sharedBody ident name) [] .other := by
    rw [hbody]
    exact bounded_reads_call false hident his (terminated_reads_one hshared (by simp))
      (loops_trailer_await (by simp) (loops_trailer_done (rules (n + 1)) .nil .other)) .nil
  rw [hbody] at hbounded ⊢
  have hstatement := statement_reads_call false hident his hbounded (by simp)
  exact statements_reads (loops_nextStatement_last hstatement (by simp))

/-! ## The body of the function that takes a client -/

theorem alternatives_read_word (n : Nat) {w : String} (hw : AreNames [w]) {rest : List Tree}
    (hrest : EndsArgument rest) : Reads (alternatives (rules (n + 1))) [word w] rest .other := by
  have hname : Reads (rules (n + 1)).pattern [word w] rest .other :=
    pattern_reads_name (rules n) hw.head (by cases hrest <;> simp [EndsName])
  refine alternatives_reads hname ?_ ?_
  · simp
  · cases hrest <;> simp

/-- `client.fetch(url).await?` -/
def fetchCall (url : String) : List Tree :=
  word "client" :: (operator "." ++ word "fetch" :: group .paren [stringLiteral url] ::
    (operator "." ++ word "await" :: operator "?"))

theorem expr_reads_fetchCall (n : Nat) (url : String) (rest : List Tree) :
    Reads ((rules (n + 2)).expr true) (fetchCall url) (operator ";" ++ rest) .other := by
  have hclient : AreNames ["client"] := by decide
  have hfetch : AreNames ["fetch"] := by decide
  have hurl : Reads ((rules (n + 1)).expr true) [stringLiteral url] [] .other :=
    expr_reads (unary_reads_literal (rules n) true _ _ .nil) .nil
  have hends : EndsExpr (operator ";" ++ rest) := .semicolon
  have htrail : Loops (trailer (rules (n + 1))) .other (operator "." ++ word "fetch" ::
      group .paren [stringLiteral url] :: (operator "." ++ word "await" :: operator "?"))
      (operator ";" ++ rest) .other :=
    loops_trailer_method hfetch.head (by simp) (terminated_reads_one hurl (by simp))
      (loops_trailer_await (by simp) (loops_trailer_question (by simp)
        (loops_trailer_done (rules (n + 1)) hends .other)))
  refine expr_reads (unary_reads_word (rules (n + 1)) hclient htrail ?_ ?_ ?_ ?_) hends
  · simp [EndsPath]
  · simp
  · simp
  · simp

theorem statement_reads_fetch (n : Nat) (url : String) (rest : List Tree) :
    Reads (statement (rules (n + 2))) (fetchStatement url) rest true := by
  have hurl : AreNames ["__url"] := by decide
  have hdata : AreNames ["__data"] := by decide
  have hvalue := expr_reads_fetchCall n url rest
  have hpattern : Reads (rules (n + 2)).pattern
      [group .paren (word "__url" :: (operator "," ++ [word "__data"]))]
      (operator "=" ++ (fetchCall url ++ (operator ";" ++ rest))) .other :=
    pattern_reads_tuple (terminated_reads (loops_itemRound_more (alternatives_read_word n hurl .comma)
      (loops_itemRound_last (alternatives_read_word n hdata .nil) _)))
  have hfetch : fetchStatement url = word "let" ::
      ([group .paren (word "__url" :: (operator "," ++ [word "__data"]))] ++
        (operator "=" ++ (fetchCall url ++ operator ";"))) := by
    simp [fetchStatement, fetchCall, commas]
  rw [hfetch]
  exact statement_reads_let (localBinding_reads hpattern hvalue)

/-- `::netreq::serde_json::from_slice::<T>(&__data)` -/
def decodeCall (ident : Ident) : List Tree :=
  rooted ["netreq", "serde_json", "from_slice"] ++ operator "::" ++
    (operator "<" ++ .ident ident :: operator ">") ++ [group .paren (operator "&" ++ [word "__data"])]

theorem expr_reads_decodeCall (n : Nat) (hident : ident.isName = true) (arms rest : List Tree) :
    Reads ((rules (n + 4)).expr false) (decodeCall ident) (group .brace arms :: rest) .other := by
  have hws : AreNames ["netreq", "serde_json"] := by decide
  have hv : AreNames ["from_slice"] := by decide
  have hdata : AreNames ["__data"] := by decide
  have hends : EndsExpr (group .brace arms :: rest) := .block
  have harg := terminated_reads_one (expr_reads_borrow (n + 1) hdata (by decide) .nil) (by simp)
  have htrail : Loops (trailer (rules (n + 3))) .other
      [group .paren (operator "&" ++ [word "__data"])] (group .brace arms :: rest) .other :=
    loops_trailer_call harg (loops_trailer_done (rules (n + 3)) hends .other)
  obtain ⟨p, hpath⟩ := path_reads_typed (n + 1) true hws hv hident
  have hpath := hpath ([group .paren (operator "&" ++ [word "__data"])] ++ group .brace arms :: rest)
    (by simp [EndsPath])
  have hcall : decodeCall ident = lead true ++ .ident { name := "netreq" } ::
      (pathTail (plainIdents (["serde_json"] ++ ["from_slice"])) ++
        (lead true ++ (operator "<" ++ .ident ident :: operator ">"))) ++
      [group .paren (operator "&" ++ [word "__data"])] := by
    simp [decodeCall, rooted_cons, lead]
  rw [hcall]
  refine expr_reads (unary_reads_path true hws.head hpath ?_ ?_ ?_ htrail) hends
  · simp [pathTail, plainIdents]
  · simp
  · simp

theorem alternatives_read_rooted (n : Nat) {w v : String} {ws : List String}
    (hws : AreNames (w :: ws)) (hv : AreNames [v]) (rest : List Tree) :
    Reads (alternatives (rules (n + 2))) (rooted (w :: ws) ++ [group .paren [word v]])
      (operator "=>" ++ rest) .other := by
  have hends : EndsPath (group .paren [word v] :: (operator "=>" ++ rest)) := by simp [EndsPath]
  have hpath := path_reads_names (rules (n + 1)) true true hws.head hws.tail.plainIdents hends
  have hinner := terminated_reads_one (alternatives_read_word n hv .nil) (by simp)
  have hpattern : Reads (rules (n + 2)).pattern (rooted (w :: ws) ++ [group .paren [word v]])
      (operator "=>" ++ rest) .other := by
    rw [rooted_cons]
    exact pattern_reads_call hpath hinner
  refine alternatives_reads hpattern ?_ ?_
  · simp [rooted_cons, lead]
  · simp

theorem arm_reads_ok (n : Nat) (rest : List Tree) :
    Reads (arm (rules (n + 2))) (resultOk ++ (operator "=>" ++ (resultOk ++ operator ","))) rest
      () := by
  have hws : AreNames ["core", "result", "Result", "Ok"] := by decide
  have hres : AreNames ["__res"] := by decide
  have hvalue := bounded_reads_rooted hws
    (terminated_reads_one (expr_reads_argument n hres .nil) (by simp))
    (show EndsExpr (operator "," ++ rest) from .comma)
  refine arm_reads_comma ?_ (alternatives_read_rooted n hws hres _) hvalue (by simp)
  simp [rooted_cons, lead, resultOk]

/-- `::netreq::Error::invalid_data(&__url, __err, &__data)` -/
def invalidData : List Tree :=
  rooted ["netreq", "Error", "invalid_data"] ++
    [group .paren (operator "&" ++ word "__url" :: (operator "," ++ word "__err" ::
      (operator "," ++ (operator "&" ++ [word "__data"]))))]

theorem expr_reads_invalidData (n : Nat) :
    Reads ((rules (n + 3)).expr true) invalidData [] .other := by
  have hws : AreNames ["netreq", "Error", "invalid_data"] := by decide
  have hurl : AreNames ["__url"] := by decide
  have herr : AreNames ["__err"] := by decide
  have hdata : AreNames ["__data"] := by decide
  have hlast := loops_itemRound_last (expr_reads_borrow n hdata (by decide) .nil) [.other, .other]
  have hmiddle : Loops (itemRound ((rules (n + 2)).expr true)) [.other]
      (word "__err" :: (operator "," ++ (operator "&" ++ [word "__data"]))) [] _ :=
    loops_itemRound_more (expr_reads_argument (n + 1) herr .comma) hlast
  have hfirst : Loops (itemRound ((rules (n + 2)).expr true)) []
      (operator "&" ++ word "__url" :: (operator "," ++ word "__err" ::
        (operator "," ++ (operator "&" ++ [word "__data"])))) [] _ :=
    loops_itemRound_more (expr_reads_borrow n hurl (by decide) .comma) hmiddle
  exact expr_reads_rooted hws (terminated_reads hfirst)
    (loops_trailer_done (rules (n + 2)) .nil .other) .nil

theorem bounded_reads_invalid (n : Nat) :
    Reads (rules (n + 6)).bounded (braces (resultErr invalidData)) [] .block := by
  have hws : AreNames ["core", "result", "Result", "Err"] := by decide
  have hinvalid := terminated_reads_one (expr_reads_invalidData n) (by simp [invalidData])
  have hbounded : Reads (rules (n + 4)).bounded (resultErr invalidData) [] .other :=
    bounded_reads_rooted hws hinvalid .nil
  have hbody : Reads (rules (n + 5)).statements (resultErr invalidData) [] () := by
    rw [resultErr, rooted_cons] at hbounded ⊢
    have hstatement := statement_reads_call true hws.head hws.tail.plainIdents hbounded (by simp)
    exact statements_reads (loops_nextStatement_last hstatement (by simp))
  refine bounded_reads_braced hbody ?_ .callSite
  simp [resultErr, rooted_cons, lead]

theorem arm_reads_err (n : Nat) :
    Reads (arm (rules (n + 6))) (resultErr [word "__err"] ++ (operator "=>" ++
      braces (resultErr invalidData))) [] () := by
  have hws : AreNames ["core", "result", "Result", "Err"] := by decide
  have herr : AreNames ["__err"] := by decide
  refine arm_reads_block ?_ (alternatives_read_rooted (n + 4) hws herr _) (bounded_reads_invalid n)
  simp [resultErr, rooted_cons, lead]

/-- The arms of the match. -/
def decodeArms : List Tree :=
  resultOk ++ (operator "=>" ++ (resultOk ++ operator ",")) ++
    (resultErr [word "__err"] ++ (operator "=>" ++ braces (resultErr invalidData)))

theorem decodeMatch_eq (ident : Ident) :
    decodeMatch ident = word "match" :: (decodeCall ident ++ [group .brace decodeArms]) := by
  simp [decodeMatch, decodeCall, decodeArms, invalidData, commas]

theorem arms_read (n : Nat) : Reads (untilEnd (arm (rules (n + 6)))) decodeArms [] [(), ()] := by
  have herr := loops_untilRound_again (arm_reads_err n) (loops_untilRound_nil _ [(), ()])
  exact untilEnd_reads (loops_untilRound_again (arm_reads_ok (n + 4) _) herr)

theorem statement_reads_decode (n : Nat) (hident : ident.isName = true) :
    Reads (statement (rules (n + 7))) (decodeMatch ident) [] true := by
  have hvalue := expr_reads_decodeCall (n + 2) hident decodeArms []
  have hhash : startsOperator ['#'] decodeArms = false := by
    simp [decodeArms, resultOk, rooted_cons, lead]
  have hmatch : Reads (matchOperand (rules (n + 6))) (decodeMatch ident) [] () := by
    rw [decodeMatch_eq]
    exact match_reads hvalue hhash (arms_read n)
  rw [decodeMatch_eq] at hmatch ⊢
  exact statement_reads_match (bounded_reads_match hmatch)

theorem statements_read_fetch (n : Nat) (url : String) (hident : ident.isName = true) :
    Reads (rules (n + 8)).statements (fetchStatement url ++ decodeMatch ident) [] () := by
  have hdecode := statement_reads_decode n hident
  have hfetch := statement_reads_fetch (n + 5) url (decodeMatch ident)
  rw [decodeMatch_eq] at hdecode hfetch ⊢
  exact statements_reads (loops_nextStatement_more hfetch (by simp)
    (loops_nextStatement_last hdecode (by simp)))

/-! ## The whole -/

theorem type_reads_self (n : Nat) (hident : ident.isName = true) (members : List Tree) :
    Reads ((rules (n + 1)).type true) [.ident ident] [group .brace members]
      (.path ⟨false, [{ ident }]⟩) := by
  refine type_reads_ident n true hident ?_ ?_ ?_
  · simp [EndsPath]
  · simp
  · simp [EndsType]

/-- The function that takes no client. -/
def sharedMethod (ident : Ident) (a : Arguments) : Method :=
  publicAsyncMethod a.name [] (resultOf ident) (sharedBody ident a.name)

/-- The function that takes a client. -/
def clientMethod (ident : Ident) (a : Arguments) : Method :=
  publicAsyncMethod (withClientName a.name) clientInput (resultOf ident)
    (fetchStatement a.url ++ decodeMatch ident)

theorem isPublicAsync_shared (n : Nat) (hident : ident.isName = true) {name : Ident}
    (hname : name.isName = true) (hclient : (withClientName name).isName = true) :
    IsPublicAsync (rules (n + 8)) name [] (resultOf ident) (sharedBody ident name) where
  isName := hname
  takesInputs := arguments_reads_nil _
  takesOutput := type_reads_result (n + 5) hident _
  takesBody := statements_read_shared (n + 5) hident hclient
  plainBody := by simp [sharedBody]

theorem isPublicAsync_client (n : Nat) (hident : ident.isName = true) {name : Ident} (url : String)
    (hclient : (withClientName name).isName = true) :
    IsPublicAsync (rules (n + 8)) (withClientName name) clientInput (resultOf ident)
      (fetchStatement url ++ decodeMatch ident) where
  isName := hclient
  takesInputs := arguments_read_client (n + 6)
  takesOutput := type_reads_result (n + 5) hident _
  takesBody := statements_read_fetch n url hident
  plainBody := by simp [fetchStatement]

theorem asyncFn_eq (ident name : Ident) (inputs body : List Tree) :
    asyncFn ident name inputs body = publicAsync name inputs (resultOf ident) body := by
  simp [asyncFn, publicAsync]

theorem synthesize_eq (ident : Ident) (a : Arguments) :
    synthesize ident a = implText [.ident ident]
      (publicAsync a.name [] (resultOf ident) (sharedBody ident a.name) ++
        publicAsync (withClientName a.name) clientInput (resultOf ident)
          (fetchStatement a.url ++ decodeMatch ident)) := by
  simp [synthesize, asyncFn_eq, implText]

/-- The generated code is read as one `impl` block of the type with the two functions. -/
theorem parse_synthesize (hident : ident.isName = true) {a : Arguments} (hname : a.name.isName = true)
    (hclient : (withClientName a.name).isName = true) :
    Item.parse (synthesize ident a) = .ok (.impl { generics := {}, forTrait := false
                                                   selfType := [.ident ident]
                                                   members := [.method (sharedMethod ident a),
                                                     .method (clientMethod ident a)] }) := by
  -- The innermost phrase lies nine levels down, and there are at least twelve.
  obtain ⟨n, hn⟩ : ∃ n, depthFor (synthesize ident a) = n + 9 := by
    refine ⟨4 * sizeOfTrees (synthesize ident a) - 1, ?_⟩
    have hsize : 1 ≤ sizeOfTrees (synthesize ident a) := Nat.le_add_right 1 _
    unfold depthFor
    omega
  have hshared := implMember_reads (isPublicAsync_shared n hident hname hclient)
  have hfetch := implMember_reads (isPublicAsync_client n hident a.url hclient)
  have hmembers := untilEnd_reads (loops_untilRound_again (hshared _)
    (loops_untilRound_again (hfetch []) (loops_untilRound_nil _ _)))
  have himpl := implItem_reads hident (type_reads_self (n + 7) hident _) hmembers (by simp)
  have hlevel : Reads ((rules (n + 9)).item []) _ [] _ := item_reads_impl himpl
  rw [synthesize_eq] at hn ⊢
  rw [← hn] at hlevel
  have hitem : Reads (grammar.item []) _ [] _ := grammar_item_reads (by rwa [List.append_nil])
  exact (wholeItem_reads hitem (by simp [implText])).run

end FetchKit.Request
