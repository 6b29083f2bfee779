import FetchKit.Proofs.Request.Appendix
import FetchKit.Proofs.Request.Printed

/-!
# Nothing of a report is lost

Every diagnostic is told in full: its headline, then its proposals, one by one. As code, each line
is one error, and the text of that error is the line, also after the code was printed and scanned.
-/

namespace FetchKit.Request

open FetchKit.Source FetchKit.Text

/-! ## Lines -/

def Severity.label : Severity → String
  | error => ""
  | warning => "warning: "

def DiagnosticId.label : DiagnosticId → String
  | notStruct => "network_request::not-struct"
  | noConformance => "network_request::no-conformance"
  | wrongConformance => "network_request::wrong-conformance"

/-- What a diagnostic has to tell, line by line. -/
def Diagnostic.lines (d : Diagnostic) : List Notice :=
  { message := d.severity.label ++ d.message ++ " [" ++ d.id.label ++ "]", span := d.span } ::
    d.fixIts.map fun f =>
      { message := "help: " ++ f.message ++ ": replace `" ++ f.original ++ "` with `" ++
          f.replacement ++ "`"
        span := f.span }

theorem qualified_eq_label (i : DiagnosticId) : i.qualified = i.label := by
  cases i <;> rfl

theorem headline_message (d : Diagnostic) :
    d.headline.message = d.severity.label ++ d.message ++ " [" ++ d.id.label ++ "]" := by
  rw [← qualified_eq_label]
  unfold Diagnostic.headline
  cases d.severity <;> simp [Severity.label, String.append_assoc]

theorem notices_eq_lines (d : Diagnostic) : d.notices = d.lines := by
  have hlines : d.lines = d.headline :: d.fixIts.map FixIt.help := by
    rw [Diagnostic.lines, ← headline_message]
    rfl
  rw [hlines, Diagnostic.notices]
  cases hfixes : d.fixIts with
  | nil => rfl
  | cons f fs =>
    rw [combine_of_ne_nil (by simp), ← List.flatMap_def, List.map_eq_flatMap]

theorem report_eq (ds : List Diagnostic) :
    report ds = if ds = [] then none else some (ds.flatMap Diagnostic.lines) := by
  split
  · next h => rw [h]; rfl
  · next h =>
    have hlines : Diagnostic.notices = Diagnostic.lines := funext notices_eq_lines
    rw [report_of_ne_nil h, hlines]

/-! ## Errors as printed code -/

theorem writable_tokens (n : Notice) : Writable n.tokens := by
  have htext : (stringLiteral n.message).Writable := ⟨n.message, rfl⟩
  simp (disch := decide) [Notice.tokens, group, writable_append, writable_rooted,
    writable_operator, Writable, Tree.Writable, htext]

theorem errorTokens_cons (n : Notice) (ns : List Notice) :
    errorTokens (n :: ns) = n.tokens ++ errorTokens ns := rfl

theorem writable_errorTokens (ns : List Notice) : Writable (errorTokens ns) := by
  induction ns with
  | nil => trivial
  | cons n ns ih =>
    rw [errorTokens_cons, writable_append]
    exact ⟨writable_tokens n, ih⟩

theorem literalsOf_tokens (n : Notice) : literalsOf n.tokens = [quote n.message] := by
  simp [Notice.tokens, group, stringLiteral, literalsOf_append, literalsOf_rooted,
    literalsOf_operator, literalsOf, literalsIn]

theorem literalsOf_errorTokens (ns : List Notice) :
    literalsOf (errorTokens ns) = ns.map fun n => quote n.message := by
  induction ns with
  | nil => rfl
  | cons n ns ih =>
    rw [errorTokens_cons, literalsOf_append, literalsOf_tokens, ih]
    rfl

/-- The code for notices, printed and scanned again, is the same code, and the values of its
literals are the messages. -/
theorem scan_errorTokens (ns : List Notice) :
    ∃ code, scan (textOf (errorTokens ns)) = some code ∧
      looseTrees code = looseTrees (errorTokens ns) ∧
      (literalsOf code).map unquote = ns.map fun n => some n.message := by
  obtain ⟨code, hscan, hloose⟩ := scan_textOf (writable_errorTokens ns)
  refine ⟨code, hscan, hloose, ?_⟩
  have hliterals : literalsOf code = ns.map fun n => quote n.message := by
    rw [← literalsOf_looseTrees, hloose, literalsOf_looseTrees, literalsOf_errorTokens]
  rw [hliterals, List.map_map]
  refine List.map_congr_left fun n _ => ?_
  rw [Function.comp_apply, unquote_quote]

/-- A list of diagnostics is reported unless it is empty. The report holds the lines of each
diagnostic in order, its code is one error for each line and nothing else, and when that code is
printed and scanned again, the values of its literals are the messages of the lines. -/
theorem report_lossless (ds : List Diagnostic) :
    (report ds = none ↔ ds = []) ∧
      (report ds = if ds = [] then none else some (ds.flatMap Diagnostic.lines)) ∧
      errorTokens (ds.flatMap Diagnostic.lines) =
        ((ds.flatMap Diagnostic.lines).map Notice.message).flatMap compileError ∧
      ∃ code, scan (textOf (errorTokens (ds.flatMap Diagnostic.lines))) = some code ∧
        looseTrees code = looseTrees (errorTokens (ds.flatMap Diagnostic.lines)) ∧
        (literalsOf code).map unquote =
          (ds.flatMap Diagnostic.lines).map fun n => some n.message := by
  refine ⟨?_, report_eq ds, errorTokens_eq _, scan_errorTokens _⟩
  rw [report_eq]
  simp

end FetchKit.Request
