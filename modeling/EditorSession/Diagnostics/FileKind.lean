import EditorSession.Path

/-! The kind of a file, by the extension of its name. -/

namespace EditorSession

inductive FileKind where
  | java
  | kotlin
  | xml
  | gradle
  | other
deriving DecidableEq, Repr

namespace FileKind

/-- An ASCII letter in lower case, and any other byte as it is. -/
def lowerByte (b : UInt8) : UInt8 := if 0x41 ≤ b ∧ b ≤ 0x5A then b + 0x20 else b

/-- The kind that an extension stands for, whatever the case of its letters. -/
def ofExtension (extension : Name) : FileKind :=
  let name := extension.map lowerByte
  if name = Utf8.ofString "java" then java
  else if name = Utf8.ofString "kt" ∨ name = Utf8.ofString "kts" then kotlin
  else if name = Utf8.ofString "xml" then xml
  else if name = Utf8.ofString "gradle" ∨ name = Utf8.ofString "groovy" then gradle
  else other

def ofPath (file : Path) : FileKind := (file.extension?.map ofExtension).getD other

def name : FileKind → String
  | java => "Java"
  | kotlin => "Kotlin"
  | xml => "Xml"
  | gradle => "Gradle"
  | other => "Other"

end FileKind

end EditorSession
