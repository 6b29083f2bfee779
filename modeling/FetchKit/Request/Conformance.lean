import FetchKit.Grammar.Item
import FetchKit.Request.Notice

/-!
# Conformance of a type

A type conforms by an empty `impl`. Its generics are carried over: the parameters without their
defaults, the conditions with one more on the type itself.
-/

namespace FetchKit.Request

open FetchKit.Source FetchKit.Grammar

/-- `Self: ::netreq::serde::Serialize + ::netreq::serde::de::DeserializeOwned` -/
def selfCondition : List Tree :=
  [word "Self"] ++ operator ":" ++ rooted ["netreq", "serde", "Serialize"] ++ operator "+" ++
    rooted ["netreq", "serde", "de", "DeserializeOwned"]

/-- Conditions with commas between them; one is put where the source has none. -/
def conditionsTokens : List Predicate → List Tree
  | [] => []
  | p :: ps => p.text ++ (if p.comma.isEmpty then operator "," else p.comma) ++ conditionsTokens ps

/-- The conditions of a type and the one on itself. -/
def whereTokens : Option Where → List Tree
  | some w => w.keyword ++ conditionsTokens w.predicates ++ selfCondition
  | none => [word "where"] ++ selfCondition

def conformance (d : DataType) : List Tree :=
  [word "impl"] ++ d.generics.angled (·.declared) ++ rooted ["netreq", "Codable"] ++ [word "for"] ++
    [.ident d.ident] ++ d.generics.angled (·.used) ++ whereTokens d.conditions ++ [group .brace []]

/-- Reads the trees as one type and gives the code that makes it conform. -/
def conform (item : List Tree) : Except Complaint (List Tree) := (DataType.parse item).map conformance

end FetchKit.Request
