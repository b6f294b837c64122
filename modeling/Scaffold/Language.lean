import Scaffold.Path
import Scaffold.Source.Grammar
import Scaffold.Text.Lowercase

/-!
# Languages

The extension of a file decides its language and the dialect it is read in. Extensions are
compared in lower case.
-/

namespace Scaffold

inductive Language where
  | javascript
  | typescript
deriving Repr, DecidableEq, Inhabited

namespace Language

def name : Language → String
  | .javascript => "javascript"
  | .typescript => "typescript"

def all : List Language :=
  [.javascript, .typescript]

def ofExtension? (extension : String) : Option Language :=
  if [".js", ".jsx", ".mjs", ".cjs"].contains extension then some .javascript
  else if [".ts", ".tsx", ".mts", ".cts"].contains extension then some .typescript
  else none

/-- Names for the types of files that are known and not supported. -/
def known : List (String × String) :=
  [(".py", "python"), (".go", "go"), (".java", "java"), (".rs", "rust"), (".rb", "ruby"),
    (".c", "c"), (".h", "c"), (".cpp", "cpp"), (".cs", "csharp"), (".php", "php"),
    (".json", "json"), (".md", "markdown"), (".html", "html"), (".css", "css"), (".yaml", "yaml"),
    (".yml", "yaml")]

/-- What an unsupported type of file is called: by its name, else by its extension. -/
def rejectedName (extension : String) : String :=
  match known.lookup extension with
  | some n => n
  | none =>
    let bare := String.ofList (extension.toList.dropWhile (· == '.'))
    if bare.isEmpty then "plaintext" else bare

/-- What is said of a file of an unsupported type. -/
def rejection (name : String) : String :=
  s!"{name} files are not supported at the moment. Sorry!"

/-- The language of a file, or what its unsupported type is called. -/
def ofPath (p : Path) : Except String Language :=
  let extension := Text.lower p.extension
  match ofExtension? extension with
  | some l => .ok l
  | none => .error (rejectedName extension)

end Language

/-- The dialect a file is read in. Markup is allowed everywhere but in plain TypeScript files. -/
def Source.Dialect.ofPath (p : Path) : Source.Dialect :=
  if [".ts", ".mts", ".cts"].contains (Text.lower p.extension) then .typescript else .tsx

/-- The dialect in which the test file for a source of this language is prepared. -/
def Language.dialect (l : Language) (p : Path) : Source.Dialect :=
  match l with
  | .javascript => .tsx
  | .typescript => .ofPath p

end Scaffold
