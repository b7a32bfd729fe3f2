import CertFailover.Files.Basic
import CertFailover.Line.Reader
import CertFailover.Logged
import CertFailover.Text.Beginning

/-!
The name of the hardware engine, from the first readable line of a properties file that has the key.
Whatever is wrong with the file, there is then no engine, and nothing fails.
-/

namespace CertFailover.Engine

def key : String := "hrotengine="

def ofLines (path : String) : List Line → Logged (Option String)
  | [] => do
    Logged.log (.engineAbsent key path)
    pure none
  | ⟨_, .text text⟩ :: rest =>
    match Text.after? key text with
    | none => ofLines path rest
    | some value =>
      let engine := Text.cut Limit.engine value
      if engine = "" then pure none
      else do
        Logged.log (.engineFound engine path)
        pure (some engine)
  | ⟨number, _⟩ :: rest => do
    Logged.log (.engineLineSkipped number path)
    ofLines path rest

def read (files : FileTree) (path : String) : Logged (Option String) :=
  match files.find path with
  | .error cause => do
    Logged.log (.engineFileNotOpened path cause)
    pure none
  | .ok node =>
    match node.content with
    | .error cause => do
      Logged.log (.engineFileNotRead path cause)
      ofLines path []
    | .ok content => ofLines path (Line.ofContent content)

end CertFailover.Engine
