import CertFailover.Proofs.Redaction
import CertFailover.Session
import Mathlib.Data.List.Forall2

/-!
Secrecy of passcodes. Of two sessions whose credential sources differ in the bytes of passcodes only,
nothing that can be seen tells which one it is: neither the events nor the results nor the handles,
unless a passcode is handed out.
-/

namespace CertFailover

theorem Passcode.blank_congr {value other bytes others : Bytes} (whole : Whole value bytes)
    (otherWhole : Whole other others) (same : bytes.length = others.length) :
    blank value = blank other := by
  rw [blank, blank, ← whole_iff.mp whole, ← whole_iff.mp otherWhole, same]

inductive SameAnswer : Except CredentialFault Bytes → Except CredentialFault Bytes → Prop
  | failed (fault : CredentialFault) : SameAnswer (.error fault) (.error fault)
  | stored {value other bytes others : Bytes} (whole : Passcode.Whole value bytes)
      (otherWhole : Passcode.Whole other others) (length : bytes.length = others.length) :
      SameAnswer (.ok value) (.ok other)

theorem SameAnswer.blank {answer other : Except CredentialFault Bytes}
    (same : SameAnswer answer other) : answer.map Passcode.blank = other.map Passcode.blank := by
  cases same with
  | failed fault => rfl
  | stored whole otherWhole length =>
      rw [Except.map, Except.map, Passcode.blank_congr whole otherWhole length]

def Credentials.Alike (credentials other : Credentials) : Prop :=
  ∀ reference, SameAnswer (credentials reference) (other reference)

theorem Credentials.Alike.redact {credentials other : Credentials}
    (alike : credentials.Alike other) : credentials.redact = other.redact :=
  funext fun reference => (alike reference).blank

/-- Sources that answer alike as long as the file tree is one of those seen. -/
def CredentialSource.Alike (seen : List FileTree) (source other : CredentialSource) : Prop :=
  ∀ files ∈ seen, (source.credentials files).Alike (other.credentials files)

/-- What can be seen of a handle. Of its passcode this is the length. -/
inductive View where
  | selector (phase : Phase) (ordinal : Nat) (group : String)
      (candidateUri? engine? : Option String) (quarantine : Quarantine) (passcodeLength : Nat)
  | locator (engine? : Option String) (passcodeLength : Nat)
  deriving DecidableEq

def Selector.view (selector : Selector) : View :=
  .selector selector.phase selector.ordinal selector.group selector.candidateUri?
    selector.engine? selector.quarantine selector.passcode.length

theorem Selector.view_redact (selector : Selector) : selector.redact.view = selector.view := by
  rw [view, view, phase_redact, ordinal_redact, candidateUri?, candidateUri?, candidate?_redact,
    passcode_redact, Passcode.length_redact]
  rfl

def Locator.view (locator : Locator) : View :=
  .locator locator.engine? locator.passcode.length

theorem Locator.view_redact (locator : Locator) : locator.redact.view = locator.view := by
  rw [view, view, passcode_redact, Passcode.length_redact]
  rfl

def Handle.view : Handle → View
  | .selector held _ => held.view
  | .locator held _ => held.view

def Handle.describe : Handle → String
  | .selector held _ => held.describe
  | .locator held _ => held.describe

inductive Handle.Alike (seen : List FileTree) : Handle → Handle → Prop
  | selector {selector twin : Selector} {source other : CredentialSource}
      (same : selector.redact = twin.redact) (alike : source.Alike seen other) :
      Alike seen (.selector selector source) (.selector twin other)
  | locator {locator twin : Locator} {source other : CredentialSource}
      (same : locator.redact = twin.redact) (alike : source.Alike seen other) :
      Alike seen (.locator locator source) (.locator twin other)

namespace Handle.Alike

variable {seen : List FileTree} {handle twin : Handle}

theorem view (alike : handle.Alike seen twin) : handle.view = twin.view := by
  cases alike with
  | selector same _ =>
      rw [Handle.view, ← Selector.view_redact, same, Selector.view_redact, Handle.view]
  | locator same _ => rw [Handle.view, ← Locator.view_redact, same, Locator.view_redact, Handle.view]

theorem describe (alike : handle.Alike seen twin) : handle.describe = twin.describe := by
  cases alike with
  | selector same _ =>
      rw [Handle.describe, ← Selector.describe_redact, same, Selector.describe_redact,
        Handle.describe]
  | locator same _ =>
      rw [Handle.describe, ← Locator.describe_redact, same, Locator.describe_redact,
        Handle.describe]

end Handle.Alike

namespace Session

inductive Step.Alike (seen : List FileTree) : Step → Step → Prop
  | edit (change : FileTree → FileTree) : Step.Alike seen (.edit change) (.edit change)
  | openSelector (name configPath propertiesPath : String) (group? : Option String)
      {source? other? : Option CredentialSource}
      (alike : (source?.getD .standard).Alike seen (other?.getD .standard)) :
      Step.Alike seen (.openSelector name ⟨configPath, propertiesPath, group?, source?⟩)
        (.openSelector name ⟨configPath, propertiesPath, group?, other?⟩)
  | openLocator (name configPath propertiesPath : String) {source other : CredentialSource}
      (alike : source.Alike seen other) :
      Step.Alike seen (.openLocator name configPath propertiesPath source)
        (.openLocator name configPath propertiesPath other)
  | onSelector (name : String) (call : Selector.Call) :
      Step.Alike seen (.onSelector name call) (.onSelector name call)
  | onLocator (name : String) (call : Locator.Call) :
      Step.Alike seen (.onLocator name call) (.onLocator name call)
  | destroy (name : String) : Step.Alike seen (.destroy name) (.destroy name)

def Result.redact : Result → Result
  | replied reply => replied reply.redact
  | other => other

def shown (session : Session) : FileTree × List (String × View × String) :=
  (session.files, session.handles.map fun row => (row.1, row.2.view, row.2.describe))

def NamedAlike (seen : List FileTree) (held twin : String × Handle) : Prop :=
  held.1 = twin.1 ∧ held.2.Alike seen twin.2

structure Alike (seen : List FileTree) (session other : Session) : Prop where
  files : session.files = other.files
  handles : List.Forall₂ (NamedAlike seen) session.handles other.handles

structure Agree {α : Type} (seen : List FileTree) (redact : α → α)
    (outcome twin : Logged (Session × α)) : Prop where
  events : outcome.events = twin.events
  session : outcome.value.1.Alike seen twin.value.1
  result : redact outcome.value.2 = redact twin.value.2

section

variable {α β γ : Type} {seen : List FileTree} {session other : Session}

theorem Agree.after {redact : α → α} {first : Logged β} {second : Logged γ}
    {next : β → Logged (Session × α)} {twin : γ → Logged (Session × α)}
    (events : first.events = second.events)
    (rest : Agree seen redact (next first.value) (twin second.value)) :
    Agree seen redact (first >>= next) (second >>= twin) := by
  refine ⟨?_, rest.session, rest.result⟩
  rw [Logged.events_bind, Logged.events_bind, events, rest.events]

theorem shown_alike {held twins : List (String × Handle)}
    (alike : List.Forall₂ (NamedAlike seen) held twins) :
    held.map (fun row => (row.1, row.2.view, row.2.describe)) =
      twins.map (fun row => (row.1, row.2.view, row.2.describe)) := by
  induction alike with
  | nil => rfl
  | cons first _ ih => rw [List.map_cons, List.map_cons, first.1, first.2.view, first.2.describe, ih]

theorem Alike.shown (alike : session.Alike seen other) : session.shown = other.shown := by
  rw [Session.shown, Session.shown, alike.files, shown_alike alike.handles]

theorem lookup_alike {held twins : List (String × Handle)}
    (alike : List.Forall₂ (NamedAlike seen) held twins) (name : String) :
    held.lookup name = none ∧ twins.lookup name = none ∨
      ∃ handle twin, held.lookup name = some handle ∧ twins.lookup name = some twin ∧
        handle.Alike seen twin := by
  induction alike with
  | nil => exact .inl ⟨rfl, rfl⟩
  | @cons first twin _ _ same _ ih =>
      rw [List.lookup_cons, List.lookup_cons, same.1]
      cases name == twin.1 with
      | true => exact .inr ⟨_, _, rfl, rfl, same.2⟩
      | false => exact ih

theorem Alike.handle? (alike : session.Alike seen other) (name : String) :
    session.handle? name = none ∧ other.handle? name = none ∨
      ∃ handle twin, session.handle? name = some handle ∧ other.handle? name = some twin ∧
        handle.Alike seen twin :=
  lookup_alike alike.handles name

theorem Alike.without (alike : session.Alike seen other) (name : String) :
    (session.without name).Alike seen (other.without name) := by
  refine ⟨alike.files, List.rel_filter ?_ alike.handles⟩
  intro held twin same
  simp only [show held.1 = twin.1 from same.1]

theorem Alike.hold (alike : session.Alike seen other) (name : String) {handle twin : Handle}
    (same : handle.Alike seen twin) : (session.hold name handle).Alike seen (other.hold name twin) :=
  ⟨alike.files, .cons ⟨rfl, same⟩ (alike.without name).handles⟩

theorem Alike.host (alike : session.Alike seen other) (known : session.files ∈ seen)
    {source origin : CredentialSource} (same : source.Alike seen origin) :
    (session.host source).redact = (other.host origin).redact := by
  rw [Session.host, Session.host, ← alike.files, Host.redact, Host.redact,
    (same session.files known).redact]

theorem value_drop (session : Session) (name : String) :
    (session.drop name).value = session.without name := by
  rw [drop]
  split <;> rfl

theorem Alike.drop (alike : session.Alike seen other) (name : String) :
    (session.drop name).events = (other.drop name).events ∧
      (session.drop name).value.Alike seen (other.drop name).value := by
  rw [value_drop, value_drop]
  refine ⟨?_, alike.without name⟩
  rcases alike.handle? name with ⟨absent, none⟩ | ⟨handle, twin, held, found, same⟩
  · rw [Session.drop, Session.drop, absent, none]
    rfl
  · rw [Session.drop, Session.drop, held, found]
    cases same with
    | locator => rfl
    | @selector selector twin _ _ same _ =>
        have destroyed := selector.destroy_redact
        rw [same, twin.destroy_redact] at destroyed
        simpa using (congrArg Logged.events destroyed).symm

def opening (session : Session) (name : String) (build : FileTree → Logged (Except Fault α))
    (handle : α → Handle) : Logged (Session × Result) := do
  let dropped ← session.drop name
  match ← build dropped.files with
  | .ok made => pure (dropped.hold name (handle made), .opened)
  | .error fault => pure (dropped, .refused fault)

theorem step_openSelector (session : Session) (name : String) (options : SelectorOptions) :
    session.step (.openSelector name options) =
      session.opening name options.build (.selector · options.source) := by
  rw [step, opening]
  refine bind_congr fun dropped => bind_congr fun built => ?_
  cases built <;> rfl

theorem step_openLocator (session : Session) (name configPath propertiesPath : String)
    (source : CredentialSource) :
    session.step (.openLocator name configPath propertiesPath source) =
      session.opening name (Locator.create · configPath propertiesPath) (.locator · source) := by
  rw [step, opening]
  refine bind_congr fun dropped => bind_congr fun built => ?_
  cases built <;> rfl

theorem Alike.opening (alike : session.Alike seen other) (name : String)
    (build : FileTree → Logged (Except Fault α)) {handle twin : α → Handle}
    (same : ∀ made, (handle made).Alike seen (twin made)) :
    Agree seen Result.redact (session.opening name build handle)
      (other.opening name build twin) := by
  obtain ⟨events, dropped⟩ := alike.drop name
  apply Agree.after events
  rw [dropped.files]
  apply Agree.after rfl
  cases (build (other.drop name).value.files).value with
  | ok made => exact ⟨rfl, dropped.hold name (same made), rfl⟩
  | error fault => exact ⟨rfl, dropped, rfl⟩

def replying (session : Session) (name : String) (handle : α → Handle)
    (outcome : Logged (α × Reply)) : Logged (Session × Result) := do
  let (next, reply) ← outcome
  pure (session.hold name (handle next), .replied reply)

theorem Alike.replying (alike : session.Alike seen other) (name : String) {redact : α → α}
    {handle twin : α → Handle}
    (handles : ∀ made remade, redact made = redact remade → (handle made).Alike seen (twin remade))
    {first second : Logged (α × Reply)}
    (same : Prod.map redact Reply.redact <$> first = Prod.map redact Reply.redact <$> second) :
    Agree seen Result.redact (session.replying name handle first)
      (other.replying name twin second) := by
  have events := congrArg Logged.events same
  have value := congrArg Logged.value same
  simp only [Logged.events_map, Logged.value_map, Prod.map, Prod.mk.injEq] at events value
  apply Agree.after events
  exact ⟨rfl, alike.hold name (handles _ _ value.1), congrArg Result.replied value.2⟩

theorem Alike.onSelector (alike : session.Alike seen other) (known : session.files ∈ seen)
    (name : String) {selector twin : Selector} {source origin : CredentialSource}
    (same : selector.redact = twin.redact) (sources : source.Alike seen origin)
    (call : Selector.Call) :
    Agree seen Result.redact (session.onSelector name selector source call)
      (other.onSelector name twin origin call) := by
  have calls : Prod.map Selector.redact Reply.redact <$> selector.call (session.host source) call =
      Prod.map Selector.redact Reply.redact <$> twin.call (other.host origin) call := by
    rw [← selector.call_redact, ← twin.call_redact, same, alike.host known sources]
  exact alike.replying name (fun _ _ same => Handle.Alike.selector same sources) calls

theorem Alike.onLocator (alike : session.Alike seen other) (known : session.files ∈ seen)
    (name : String) {locator twin : Locator} {source origin : CredentialSource}
    (same : locator.redact = twin.redact) (sources : source.Alike seen origin)
    (call : Locator.Call) :
    Agree seen Result.redact (session.onLocator name locator source call)
      (other.onLocator name twin origin call) := by
  have calls : Prod.map Locator.redact Reply.redact <$> locator.call (session.host source) call =
      Prod.map Locator.redact Reply.redact <$> twin.call (other.host origin) call := by
    rw [← locator.call_redact, ← twin.call_redact, same, alike.host known sources]
  exact alike.replying name (fun _ _ same => Handle.Alike.locator same sources) calls

theorem Alike.step (alike : session.Alike seen other) (known : session.files ∈ seen)
    {next twin : Step} (same : next.Alike seen twin) :
    Agree seen Result.redact (session.step next) (other.step twin) := by
  cases same with
  | edit change => exact ⟨rfl, ⟨congrArg change alike.files, alike.handles⟩, rfl⟩
  | openSelector name configPath propertiesPath group? sources =>
      rw [step_openSelector, step_openSelector]
      exact alike.opening name _ fun selector => .selector rfl sources
  | openLocator name configPath propertiesPath sources =>
      rw [step_openLocator, step_openLocator]
      exact alike.opening name _ fun locator => .locator rfl sources
  | onSelector name call =>
      rcases alike.handle? name with ⟨absent, none⟩ | ⟨handle, twin, held, found, same⟩
      · rw [Session.step, Session.step, absent, none]
        exact ⟨rfl, alike, rfl⟩
      · rw [Session.step, Session.step, held, found]
        cases same with
        | selector same sources => exact alike.onSelector known name same sources call
        | locator => exact ⟨rfl, alike, rfl⟩
  | onLocator name call =>
      rcases alike.handle? name with ⟨absent, none⟩ | ⟨handle, twin, held, found, same⟩
      · rw [Session.step, Session.step, absent, none]
        exact ⟨rfl, alike, rfl⟩
      · rw [Session.step, Session.step, held, found]
        cases same with
        | selector => exact ⟨rfl, alike, rfl⟩
        | locator same sources => exact alike.onLocator known name same sources call
  | destroy name =>
      rcases alike.handle? name with ⟨absent, none⟩ | ⟨handle, twin, held, found, same⟩
      · rw [Session.step, Session.step, absent, none]
        exact ⟨rfl, alike, rfl⟩
      · rw [Session.step, Session.step, held, found]
        cases same with
        | selector same sources => exact alike.onSelector known name same sources .destroy
        | locator same sources => exact alike.onLocator known name same sources .destroy

def Step.treeAfter (files : FileTree) : Step → FileTree
  | .edit change => change files
  | _ => files

theorem files_opening (session : Session) (name : String)
    (build : FileTree → Logged (Except Fault α)) (handle : α → Handle) :
    (session.opening name build handle).value.1.files = session.files := by
  simp only [opening, Logged.value_bind, value_drop]
  cases (build (session.without name).files).value <;> rfl

theorem files_step (session : Session) (next : Step) :
    (session.step next).value.1.files = next.treeAfter session.files := by
  cases next with
  | edit change => rfl
  | openSelector name options =>
      rw [step_openSelector, files_opening]
      rfl
  | openLocator name configPath propertiesPath source =>
      rw [step_openLocator, files_opening]
      rfl
  | _ name =>
      rw [step]
      split <;> rfl

def trees (files : FileTree) (steps : List Step) : List FileTree :=
  steps.scanl Step.treeAfter files

theorem trees_take_subset (files : FileTree) (steps : List Step) (count : Nat) :
    trees files (steps.take count) ⊆ trees files steps := by
  rw [trees, trees, ← List.take_scanl]
  exact List.take_subset _ _

theorem Alike.run (alike : session.Alike seen other) {steps others : List Step}
    (same : List.Forall₂ (Step.Alike seen) steps others)
    (known : trees session.files steps ⊆ seen) :
    Agree seen (List.map Result.redact) (session.run steps) (other.run others) := by
  induction same generalizing session other with
  | nil => exact ⟨rfl, alike, rfl⟩
  | @cons next twin rest others same _ ih =>
      rw [trees, List.scanl_cons, List.cons_subset] at known
      have first := alike.step known.1 same
      -- What the rest of the run meets begins with the tree that the step leaves.
      rw [← files_step] at known
      have later := ih first.session known.2
      apply Agree.after first.events
      apply Agree.after later.events
      exact ⟨rfl, later.session, congrArg₂ List.cons first.result later.result⟩

/-- The steps of two sessions are the same but for their credential sources, which answer alike on
the trees that the sessions come to. Then, after any number of steps, the same events have been
logged, the results are the same but for the bytes of passcodes, and the sessions show the same.
Whatever is dropped after that, neither changes. -/
theorem run_secret (files : FileTree) {steps others : List Step}
    (same : List.Forall₂ (Step.Alike (trees files steps)) steps others) (count : Nat) :
    let start : Session := ⟨files, []⟩
    let outcome := start.run (steps.take count)
    let twin := start.run (others.take count)
    outcome.events = twin.events ∧
      outcome.value.2.map Result.redact = twin.value.2.map Result.redact ∧
      outcome.value.1.shown = twin.value.1.shown ∧
      ∀ name, (outcome.value.1.drop name).events = (twin.value.1.drop name).events ∧
        (outcome.value.1.drop name).value.shown = (twin.value.1.drop name).value.shown := by
  intro start outcome twin
  have alike : start.Alike (trees files steps) start := ⟨rfl, .nil⟩
  have agree := alike.run (List.forall₂_take count same) (trees_take_subset files steps count)
  refine ⟨agree.events, agree.result, agree.session.shown, fun name => ?_⟩
  obtain ⟨events, dropped⟩ := agree.session.drop name
  exact ⟨events, dropped.shown⟩

end

def sampleSteps (value : Bytes) : List Step :=
  let source := .custom fun _ => .ok value
  [.openSelector "s" ⟨"c.cfg", "hrot.properties", some "G", some source⟩,
    .openLocator "l" "c.cfg" "hrot.properties" source, .onSelector "s" .checkOut,
    .onLocator "l" (.locate "M"), .edit (·.touch "b.p12" (.ofSeconds 1 0)),
    .onSelector "s" (.report 58 "host")]

theorem run_secret_sample :
    let start : Session := ⟨Selector.sampleFiles, []⟩
    let outcome := start.run (sampleSteps [1])
    let twin := start.run (sampleSteps [2, 10])
    List.Forall₂ (Step.Alike (trees Selector.sampleFiles (sampleSteps [1]))) (sampleSteps [1])
        (sampleSteps [2, 10]) ∧
      outcome.value.2 ≠ twin.value.2 ∧ outcome.events = twin.events ∧
      outcome.value.1.shown = twin.value.1.shown := by
  have ended : [2, 10] = [2] ++ [Passcode.newline] := rfl
  have source (seen : List FileTree) :
      CredentialSource.Alike seen (.custom fun _ => .ok [1]) (.custom fun _ => .ok [2, 10]) :=
    fun _ _ _ => .stored (.plain (by decide)) (.ended ended) rfl
  have same : List.Forall₂ (Step.Alike (trees Selector.sampleFiles (sampleSteps [1])))
      (sampleSteps [1]) (sampleSteps [2, 10]) :=
    .cons (.openSelector _ _ _ _ (source _)) <| .cons (.openLocator _ _ _ (source _)) <|
      .cons (.onSelector ..) <| .cons (.onLocator ..) <| .cons (.edit _) <|
      .cons (.onSelector ..) .nil
  have secret := run_secret Selector.sampleFiles same 6
  rw [show (sampleSteps [1]).take 6 = sampleSteps [1] from rfl,
    show (sampleSteps [2, 10]).take 6 = sampleSteps [2, 10] from rfl] at secret
  exact ⟨same, by decide, secret.1, secret.2.2.1⟩

end Session

end CertFailover
