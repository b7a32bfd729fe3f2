import CertFailover.Selector.Basic

/-!
Options to make a selector from. Only the group has to be given.
-/

namespace CertFailover

structure SelectorOptions where
  configPath : String := "/etc/ssl/certsel/certsel.cfg"
  propertiesPath : String := "/etc/ssl/certsel/hrot.properties"
  group? : Option String := none
  source? : Option CredentialSource := none

namespace SelectorOptions

def standard : SelectorOptions := {}

def source (options : SelectorOptions) : CredentialSource :=
  options.source?.getD .standard

def build (options : SelectorOptions) (files : FileTree) : Logged (Except Fault Selector) :=
  match options.group? with
  | none => pure (.error (.emptyArgument .group))
  | some group => Selector.create files options.configPath options.propertiesPath group

def describe (options : SelectorOptions) : String :=
  Text.record "CertSelectorBuilder"
    [("config_path", Text.quoted options.configPath),
     ("properties_path", Text.quoted options.propertiesPath),
     ("group", Text.optional Text.quoted options.group?),
     ("resolver", Text.optional (fun _ => CredentialSource.description) options.source?)]

end SelectorOptions

end CertFailover
