import UsedSelectors.Files.FileSystem
import UsedSelectors.Files.FileReport
import UsedSelectors.Json
import UsedSelectors.Script.Grammar
import UsedSelectors.Script.Scanner
import UsedSelectors.Session

/-!
# What is built in

The parsers, encodings and JSON encoder that the tool has of its own. The grammar of scripts is made
ready once, when a script is parsed for the first time.
-/

namespace UsedSelectors

namespace Script

open Parsing

def language : Thunk Language := Thunk.mk fun _ => grammar.compile

def parse (text : String) : Option SyntaxTree := language.get.parse Scanner.scan text

end Script

def SyntaxTree.broken : SyntaxTree := .node ⟨"program", true, false, true, 0, 0, 0⟩ none []

/-- Surrogates are left out of documents. -/
def Parsers.builtin : Parsers where
  document contents := Markup.parse (String.ofList (contents.filterMap CodePoint.toChar?))
  script text := (Script.parse text).getD .broken

/-- The encoding of the locale is UTF-8. -/
def Encoding.Registry.builtin : Encoding.Registry := fun name =>
  if name = "locale" then some fun bytes =>
    ((Encoding.Utf8.codec.decode bytes).mapError fun e => ⟨true, e.message⟩).map Text.ofChars
  else none

def Host.builtin (stdout : Encoding.Stream) : Host :=
  ⟨Parsers.builtin.readers, .builtin, .plain, stdout⟩

/-- The limits of Linux, and the depth at which a search has used up its stack. -/
def FileLimits.builtin : FileLimits := ⟨255, 4095, 990⟩

def Engine.ofReaders (readers : Readers) : Engine Unit where
  fresh _ := ()
  read mode _ contents := (readers mode contents, ())

end UsedSelectors
