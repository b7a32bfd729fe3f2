import CertFailover.Text.Invisible

/-!
Quoted text for messages. The quote, the backslash and invisible characters are escaped; all else,
also beyond ASCII, stands for itself.
-/

namespace CertFailover.Text

def escape (quote c : Char) : List Char :=
  if c = quote then ['\\', c]
  else match c with
    | '\\' => ['\\', '\\']
    | '\t' => ['\\', 't']
    | '\n' => ['\\', 'n']
    | '\r' => ['\\', 'r']
    | '\x00' => ['\\', '0']
    | _ =>
      if isInvisible c then ['\\', 'u', '\x7b'] ++ Nat.toDigits 16 c.toNat ++ ['\x7d'] else [c]

def quoteWith (quote : Char) (chars : List Char) : String :=
  String.ofList (quote :: chars.flatMap (escape quote) ++ [quote])

def quoted (text : String) : String :=
  quoteWith '"' text.toList

def quotedChar (c : Char) : String :=
  quoteWith '\'' [c]

end CertFailover.Text
