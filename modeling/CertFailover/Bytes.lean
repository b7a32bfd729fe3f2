/-!
Byte strings, as files and credential stores hold them.
-/

namespace CertFailover

abbrev Bytes := List UInt8

def Bytes.ofText (text : String) : Bytes :=
  text.toUTF8.data.toList

def Bytes.text? (bytes : Bytes) : Option String :=
  String.fromUTF8? ⟨bytes.toArray⟩

theorem Bytes.text?_ofText (text : String) : (Bytes.ofText text).text? = some text := by
  simp [Bytes.text?, Bytes.ofText, String.fromUTF8?, text.isValidUTF8, String.fromUTF8]

end CertFailover
