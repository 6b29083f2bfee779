import FetchKit.Request.Arguments

/-!
# The generated code

For a struct `T` two functions are generated: one that fetches with the shared client, and one that
takes the client to fetch with. Both give back `T`.
-/

namespace FetchKit.Request

open FetchKit.Source

/-- The name of the function that takes a client. -/
def withClientName (name : Ident) : Ident := { name := name.name ++ "_with" }

def commas (parts : List (List Tree)) : List Tree := (parts.intersperse (operator ",")).flatten

def parens (content : List Tree) : List Tree := [group .paren content]

def braces (content : List Tree) : List Tree := [group .brace content]

/-- `::netreq::Result<T>` -/
def resultOf (ident : Ident) : List Tree :=
  rooted ["netreq", "Result"] ++ operator "<" ++ [.ident ident] ++ operator ">"

/-- `pub async fn name(inputs) -> ::netreq::Result<T> { body }` -/
def asyncFn (ident name : Ident) (inputs body : List Tree) : List Tree :=
  [word "pub", word "async", word "fn", .ident name] ++ parens inputs ++ operator "->" ++
    resultOf ident ++ braces body

def resultOk : List Tree := rooted ["core", "result", "Result", "Ok"] ++ parens [word "__res"]

def resultErr (content : List Tree) : List Tree :=
  rooted ["core", "result", "Result", "Err"] ++ parens content

/-- Calls the function that takes a client, with the shared one. -/
def sharedBody (ident name : Ident) : List Tree :=
  [.ident ident] ++ operator "::" ++ [.ident (withClientName name)] ++
    parens (rooted ["netreq", "HttpClient", "shared"] ++ parens [] ++ operator "?") ++ operator "." ++
    [word "await"]

/-- `let (__url, __data) = client.fetch(url).await?;` -/
def fetchStatement (url : String) : List Tree :=
  [word "let"] ++ parens (commas [[word "__url"], [word "__data"]]) ++ operator "=" ++
    [word "client"] ++ operator "." ++ [word "fetch"] ++ parens [stringLiteral url] ++ operator "." ++
    [word "await"] ++ operator "?" ++ operator ";"

/-- Decodes the data and wraps what went wrong. -/
def decodeMatch (ident : Ident) : List Tree :=
  [word "match"] ++ rooted ["netreq", "serde_json", "from_slice"] ++ operator "::" ++ operator "<" ++
    [.ident ident] ++ operator ">" ++ parens (operator "&" ++ [word "__data"]) ++
    braces (resultOk ++ operator "=>" ++ resultOk ++ operator "," ++
      resultErr [word "__err"] ++ operator "=>" ++
      braces (resultErr (rooted ["netreq", "Error", "invalid_data"] ++
        parens (commas [operator "&" ++ [word "__url"], [word "__err"], operator "&" ++ [word "__data"]]))))

def clientInput : List Tree :=
  [word "client"] ++ operator ":" ++ operator "&" ++ rooted ["netreq", "HttpClient"]

def synthesize (ident : Ident) (a : Arguments) : List Tree :=
  [word "impl", .ident ident] ++ braces
    (asyncFn ident a.name [] (sharedBody ident a.name) ++
      asyncFn ident (withClientName a.name) clientInput (fetchStatement a.url ++ decodeMatch ident))

end FetchKit.Request
