import SignedResponse.Http.Exchange
import SignedResponse.Json.Shape

/-!
Captured exchanges: a request and its response as one JSON document.

Headers are kept by name, so that the order of the document does not matter. Names that differ only
in letter case are different members of the document and the same header of the response.
-/

namespace SignedResponse

structure Capture where
  method : String := "GET"
  path : String := "/"
  nonce : Option String := none
  status : Nat := 0
  /-- Names and values, in ascending order of names and no name twice. -/
  headers : List (String × String) := []
  body : Option String := none
deriving DecidableEq

namespace Capture

def insertHeader (name value : String) : List (String × String) → List (String × String)
  | [] => [(name, value)]
  | (other, kept) :: rest =>
      if name = other then (name, value) :: rest
      else if name < other then (name, value) :: (other, kept) :: rest
      else (other, kept) :: insertHeader name value rest

/-- Headers sorted by name; of those with the same name the last one counts. -/
def sortHeaders (headers : List (String × String)) : List (String × String) :=
  headers.foldl (fun sorted header => insertHeader header.1 header.2 sorted) []

/-- All fields but the status can be left out. -/
def shape : JsonShape Capture where
  title := "Capture"
  defaults := {}
  fields :=
    [{ name := "method"
       set := fun value capture => return { capture with method := ← value.readText } },
      { name := "path"
        set := fun value capture => return { capture with path := ← value.readText } },
      { name := "nonce"
        set := fun value capture => return { capture with nonce := ← value.readOptionalText } },
      { name := "status"
        required := true
        set := fun value capture =>
          return { capture with status := ← value.readNatural 65536 "u16" } },
      { name := "headers"
        set := fun value capture =>
          return { capture with headers := sortHeaders (← value.readTexts) } },
      { name := "body"
        set := fun value capture => return { capture with body := ← value.readOptionalText } }]

def ofJson (text : String) : Except JsonFault Capture := JsonValue.readWhole shape.read text

end Capture

end SignedResponse
