import DocHarvest.Language.Go
import DocHarvest.Language.Java
import DocHarvest.Language.JavaScript
import DocHarvest.Language.Python
import DocHarvest.Language.Ruby
import DocHarvest.Text.SmallLetters

/-!
# The supported languages

`Language` lists the languages, and `Language.ofName?` finds the one that a name or an alias stands
for; capitals and white space around a name do not matter.
-/

namespace DocHarvest

open Text

/-- A supported language. -/
inductive Language where
  | python
  | java
  | javaScript
  | typeScript
  | go
  | ruby
deriving DecidableEq

namespace Language

/-- Every language, in the order in which they are listed. -/
def all : List Language := [python, java, javaScript, typeScript, go, ruby]

/-- Where a language keeps its definitions and their documentation. -/
def rules : Language → LanguageRules
  | python => Python.rules
  | java => Java.rules
  | javaScript => JavaScript.rules
  | typeScript => TypeScript.rules
  | go => Go.rules
  | ruby => Ruby.rules

def name (l : Language) : String := l.rules.name

/-- Whether a normalized name is the name or an alias of a language. -/
def isCalled (l : Language) (name : Text) : Bool :=
  (l.rules.name :: l.rules.aliases).any (·.toList = name)

/-- A name in the form in which languages are looked up: trimmed, in small letters, and spelt with
letters. -/
def normalize (name : Text) : Text :=
  let name := lower (trim name)
  if name = "c++".toList then "cpp".toList
  else if name = "c#".toList then "c_sharp".toList
  else name

/-- The language that a name stands for. -/
def ofName? (name : Text) : Option Language :=
  all.find? (·.isCalled (normalize name))

end Language

end DocHarvest
