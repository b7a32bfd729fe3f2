import CertFailover.Locator.Run
import CertFailover.Proofs.Turns

/-!
Redaction, which puts zeros in place of the bytes of passcodes. Each operation commutes with it and
logs the same events, so that nothing but the passcodes themselves depends on their bytes.
-/

namespace CertFailover

namespace Passcode

def blank (value : Bytes) : Bytes :=
  List.replicate (dropNewline value).length 0

def redact (passcode : Passcode) : Passcode :=
  ⟨List.replicate passcode.length 0, by simpa [length] using passcode.short⟩

theorem dropNewline_blank (value : Bytes) : dropNewline (blank value) = blank value := by
  apply if_neg
  intro last
  have member := List.mem_of_getLast? last
  exact absurd (List.eq_of_mem_replicate member) (by decide)

theorem ofValue?_blank (value : Bytes) : ofValue? (blank value) = (ofValue? value).map redact := by
  have same : (dropNewline (blank value)).length = (dropNewline value).length := by
    rw [dropNewline_blank, blank, List.length_replicate]
  rw [ofValue?, ofValue?]
  by_cases short : (dropNewline value).length < Limit.passcode
  · rw [dif_pos short, dif_pos (by rwa [same])]
    simp only [dropNewline_blank]
    rfl
  · rw [dif_neg short, dif_neg (by rwa [same])]
    rfl

@[simp] theorem length_redact (passcode : Passcode) : passcode.redact.length = passcode.length := by
  simp [redact, length]

@[simp] theorem describe_redact (passcode : Passcode) :
    passcode.redact.describe = passcode.describe := by
  rw [describe, describe, length_redact]

end Passcode

def Credentials.redact (credentials : Credentials) : Credentials := fun reference =>
  (credentials reference).map Passcode.blank

def Host.redact (host : Host) : Host :=
  { host with credentials := host.credentials.redact }

@[simp] theorem Host.files_redact (host : Host) : host.redact.files = host.files := rfl

@[simp] theorem Host.credentials_redact (host : Host) (reference : String) :
    host.redact.credentials reference = (host.credentials reference).map Passcode.blank := rfl

def Grant.redact (grant : Grant) : Grant :=
  { grant with passcode := grant.passcode.redact }

def Reply.redact : Reply → Reply
  | granted grant => granted grant.redact
  | other => other

theorem Reply.redact_ofGrant (result : Except Fault Grant) :
    (Reply.ofGrant result).redact = .ofGrant (result.map Grant.redact) := by
  cases result <;> rfl

def Stage.redact : Stage → Stage
  | checkedOut candidate passcode => checkedOut candidate passcode.redact
  | other => other

namespace Stage

@[simp] theorem phase_redact (stage : Stage) : stage.redact.phase = stage.phase := by
  cases stage <;> rfl

@[simp] theorem candidate?_redact (stage : Stage) :
    stage.redact.candidate? = stage.candidate? := by
  cases stage <;> rfl

@[simp] theorem passcode_redact (stage : Stage) :
    stage.redact.passcode = stage.passcode.redact := by
  cases stage <;> rfl

end Stage

namespace Selector

def redact (selector : Selector) : Selector :=
  { selector with stage := selector.stage.redact }

@[simp] theorem phase_redact (selector : Selector) : selector.redact.phase = selector.phase :=
  selector.stage.phase_redact

@[simp] theorem candidate?_redact (selector : Selector) :
    selector.redact.candidate? = selector.candidate? :=
  selector.stage.candidate?_redact

@[simp] theorem passcode_redact (selector : Selector) :
    selector.redact.passcode = selector.passcode.redact :=
  selector.stage.passcode_redact

@[simp] theorem ordinal_redact (selector : Selector) :
    selector.redact.ordinal = selector.ordinal := by
  rw [ordinal, ordinal, candidate?_redact]

@[simp] theorem describe_redact (selector : Selector) :
    selector.redact.describe = selector.describe := by
  rw [describe, describe, phase_redact, ordinal_redact, candidate?_redact, passcode_redact,
    Passcode.describe_redact]
  rfl

theorem Idle.redact {selector : Selector} (idle : selector.Idle) : selector.redact.Idle := by
  rwa [Idle, phase_redact]

theorem unlock_redact (host : Host) (entry : Entry) :
    unlock host.redact entry = Option.map Passcode.redact <$> unlock host entry := by
  rw [unlock, unlock, Host.credentials_redact]
  cases host.credentials entry.credentialRef with
  | error fault => rfl
  | ok value =>
      simp only [Except.map, Passcode.ofValue?_blank]
      cases Passcode.ofValue? value <;> rfl

theorem attempt_redact (host : Host) (quarantine : Quarantine) (candidate : Candidate) :
    attempt host.redact quarantine candidate =
      Prod.map (Option.map Passcode.redact) id <$> attempt host quarantine candidate := by
  rw [attempt, attempt, map_bind]
  apply bind_congr
  rintro ⟨usable, judged⟩
  cases usable with
  | false => rfl
  | true => simp only [unlock_redact, bind_map_left, map_bind, map_pure, Prod.map, id]

def redactFound : Except LookupFault (Candidate × Passcode) →
    Except LookupFault (Candidate × Passcode) :=
  Except.map (Prod.map id Passcode.redact)

theorem search_redact (selector : Selector) (host : Host) (tries : Nat)
    (first : Except LookupFault Candidate) (quarantine : Quarantine) :
    selector.redact.search host.redact tries first quarantine =
      Prod.map redactFound id <$> selector.search host tries first quarantine := by
  induction tries generalizing first quarantine with
  | zero => cases first <;> rfl
  | succ tries ih =>
      cases first with
      | error fault =>
          rw [search_error, search_error]
          rfl
      | ok candidate =>
          rw [search_succ, search_succ, attempt_redact, bind_map_left, map_bind]
          -- Redaction leaves a passcode where there is one, so both searches go the same way.
          apply bind_congr
          rintro ⟨passcode?, judged⟩
          cases passcode? with
          | some passcode => rfl
          | none =>
              simp only [map_bind]
              exact bind_congr fun next => ih next judged

theorem begin_redact (selector : Selector) (files : FileTree) :
    selector.redact.begin files = selector.begin files := by
  rw [begin, begin, candidate?_redact]
  rfl

theorem checkOut_redact (selector : Selector) (host : Host) :
    selector.redact.checkOut host.redact =
      Prod.map redact (Except.map Grant.redact) <$> selector.checkOut host := by
  by_cases idle : selector.Idle
  · rw [checkOut_of_idle idle.redact, checkOut_of_idle idle, begin_redact, map_bind]
    apply bind_congr
    intro first
    have searched := search_redact selector host Limit.ordinals first selector.quarantine
    rw [show selector.redact.quarantine = selector.quarantine from rfl, searched, bind_map_left,
      map_bind]
    apply bind_congr
    rintro ⟨result, last⟩
    cases result with
    | error fault => cases fault <;> rfl
    | ok found => rfl
  · obtain ⟨configPath, group, engine?, quarantine, stage⟩ := selector
    cases stage with
    | ready candidate? => exact absurd (idle_iff.mpr (.inl ⟨_, rfl⟩)) idle
    | exhausted => exact absurd (idle_iff.mpr (.inr rfl)) idle
    | checkedOut candidate passcode => rfl
    | destroyed => rfl

theorem succeed_redact (selector : Selector) (files : FileTree) (candidate : Candidate) :
    selector.redact.succeed files candidate =
      Prod.map redact id <$> selector.succeed files candidate := by
  by_cases first : candidate.ordinal = 0
  · simp only [succeed, if_pos first]
    rfl
  · simp only [succeed, if_neg first, map_bind]
    apply bind_congr
    intro found
    cases found <;> rfl

theorem reject_redact (selector : Selector) (files : FileTree) (candidate : Candidate) (code : Nat)
    (endpoint : String) :
    selector.redact.reject files candidate code endpoint =
      Prod.map redact id <$> selector.reject files candidate code endpoint := by
  simp only [reject, map_bind]
  apply bind_congr
  intro _
  apply bind_congr
  intro found
  cases found with
  | ok next => rfl
  | error fault => cases fault <;> rfl

theorem report_redact (selector : Selector) (files : FileTree) (code : Nat) (endpoint : String) :
    selector.redact.report files code endpoint =
      Prod.map redact id <$> selector.report files code endpoint := by
  cases stage : selector.stage with
  | checkedOut candidate passcode =>
      have redacted : selector.redact.stage = .checkedOut candidate passcode.redact := by
        rw [redact, stage, Stage.redact]
      simp only [report, stage, redacted]
      cases Outcome.ofCode code with
      | success => exact selector.succeed_redact files candidate
      | certificateError => exact selector.reject_redact files candidate code endpoint
      | other => rfl
  | _ =>
      obtain ⟨configPath, group, engine?, quarantine, _⟩ := selector
      cases stage
      rfl

theorem destroy_redact (selector : Selector) :
    selector.redact.destroy = redact <$> selector.destroy := by
  obtain ⟨configPath, group, engine?, quarantine, stage⟩ := selector
  cases stage <;> rfl

theorem call_redact (selector : Selector) (host : Host) (made : Call) :
    selector.redact.call host.redact made =
      Prod.map redact Reply.redact <$> selector.call host made := by
  cases made with
  | checkOut =>
      simp only [call, checkOut_redact, bind_map_left, map_bind, map_pure, Prod.map,
        Reply.redact_ofGrant]
  | report code endpoint =>
      have same := selector.report_redact host.files code endpoint
      simp only [call, Host.files_redact, same, bind_map_left, map_bind, map_pure, Prod.map]
      rfl
  | destroy =>
      simp only [call, destroy_redact, bind_map_left, map_bind, map_pure, Prod.map]
      rfl

end Selector

def Located.redact (located : Located) : Located :=
  { located with passcode := located.passcode.redact }

namespace Locator

def redact (locator : Locator) : Locator :=
  { locator with current? := locator.current?.map Located.redact }

@[simp] theorem passcode_redact (locator : Locator) :
    locator.redact.passcode = locator.passcode.redact := by
  obtain ⟨configPath, engine?, live, current?⟩ := locator
  cases current? <;> rfl

@[simp] theorem describe_redact (locator : Locator) :
    locator.redact.describe = locator.describe := by
  rw [describe, describe, passcode_redact, Passcode.describe_redact]
  obtain ⟨configPath, engine?, live, current?⟩ := locator
  cases current? <;> rfl

theorem openEntry_redact (host : Host) (label : String) (entry : Entry) :
    openEntry host.redact label entry =
      Except.map Located.redact <$> openEntry host label entry := by
  unfold openEntry
  rw [Host.files_redact, Host.credentials_redact]
  cases host.files.modified? entry.path with
  | none => rfl
  | some time =>
      cases host.credentials entry.credentialRef with
      | error fault => rfl
      | ok value =>
          simp only [Except.map, Passcode.ofValue?_blank]
          cases Passcode.ofValue? value <;> rfl

theorem find_redact (locator : Locator) (host : Host) (label : String) :
    locator.redact.find host.redact label =
      Except.map Located.redact <$> locator.find host label := by
  rw [find, find]
  cases Field.label.validate label [Entry.fieldSeparator] with
  | error fault => rfl
  | ok _ =>
      simp only [map_bind]
      apply bind_congr
      intro found
      cases found with
      | error fault => rfl
      | ok entry => exact openEntry_redact host label entry

theorem locate_redact (locator : Locator) (host : Host) (label : String) :
    locator.redact.locate host.redact label =
      Prod.map redact (Except.map Grant.redact) <$> locator.locate host label := by
  rw [locate, locate, find_redact]
  by_cases live : locator.live
  · rw [if_neg (by simpa [redact] using live), if_neg (by simpa using live), bind_map_left, map_bind]
    apply bind_congr
    intro found
    cases found <;> rfl
  · rw [if_pos (by simpa [redact] using live), if_pos (by simpa using live)]
    rfl

theorem call_redact (locator : Locator) (host : Host) (made : Call) :
    locator.redact.call host.redact made =
      Prod.map redact Reply.redact <$> locator.call host made := by
  cases made with
  | locate label =>
      simp only [call, locate_redact, bind_map_left, map_bind, map_pure, Prod.map,
        Reply.redact_ofGrant]
  | destroy => rfl

end Locator

end CertFailover
