import ConfigEnvInit.Protocol
import ConfigEnvInit.Run

/-!
# `run` keeps to the order of the command

`run_follows` checks `run` against `Step` one call at a time with the rules of `Logged.Follows`:
its log is a log of the machine from `Stage.start`, and a run that succeeds ends at
`Stage.referenced`. What the machine allows is then what every run does, failed runs included:

* `run_follows_stages`: the log of every run is a log of the machine;
* `run_saveProjectStack`: each save of the stack is the secrets-provider save right after the
  `GetDecrypter` call that changed the secrets manager, or the save of the reference, the run's
  last call, right after `CreateEnvironment` succeeded.
-/

namespace ConfigEnvInit

open Logged

section
variable {Cfg Env Dec Props : Type} (svc : Services Cfg Env Dec Props) (cmd : ConfigEnvInitCmd)

/-- `getStackConfig` calls `GetDecrypter` and may save the stack, and leaves the command where
the preview of the project stack it returns may be written. -/
theorem getStackConfig_follows (project : Project) (stack : Stack) :
    Follows svc cmd (.announced project stack) (getStackConfig svc project stack)
      fun r t => ∀ text, Step svc cmd t (.stdout text) (.previewed project stack r.1) := by
  refine Follows.bind (Follows.lift fun ps₀ hl => Follows.bind (Follows.call (.getDecrypter hl) ?_))
  rintro ⟨dec, state, ps⟩ hd
  exact Follows.bind (Follows.onlyIf
    (fun hc => Follows.call (.saveSecretsProvider hd hc) fun _ hs =>
      Follows.bind (Follows.lift fun _ _ => Follows.pure fun _ =>
        .previewSaved (Except.mapError_eq_ok.mp hs)))
    fun hc => Follows.bind (Follows.lift fun _ _ => Follows.pure fun _ =>
      .preview (not_not.mp hc ▸ hd)))

/-- **Refinement.** The calls of `run` are a log of `Step` from `Stage.start`, and a run that
returns ends at `Stage.referenced`. -/
theorem run_follows : Follows svc cmd .start (run svc cmd) fun _ t => t = .referenced := by
  refine Follows.bind (Follows.failIf fun hy => Follows.bind (Follows.lift fun project hp =>
    Follows.bind (Follows.call (.requireStack (by simpa using hy) hp) fun stack hs =>
      Follows.bind (Follows.failIf fun he => ?_))))
  generalize hn : parseEnvName project.name stack.name cmd.envName = names
  obtain ⟨envProject, envName⟩ := names
  refine Follows.bind (Follows.call (.announce hs (by simpa using he) hn) fun _ _ =>
    Follows.bind ((getStackConfig_follows svc cmd project stack).mono ?_))
  rintro ⟨ps, config⟩ t hpreview
  refine Follows.bind (Follows.lift fun crypter _ => Follows.bind (Follows.lift fun yaml _ =>
    Follows.bind (Follows.lift fun preview _ => Follows.bind (Follows.call (hpreview preview)
      fun _ _ => Follows.bind ((?_ : Follows svc cmd _ _ fun _ t => ∀ yaml,
        Step svc cmd t (.createEnvironment stack.orgName envProject envName yaml)
          (.created stack ps envProject envName yaml)).mono fun _ t hcreate => ?_)))))
  · exact Follows.onlyIf
      (fun hy => Follows.bind (Follows.call (.prompt (by simpa using hy)) fun save hsave =>
        Follows.failIf fun hs _ =>
          .createConfirmed (hsave.trans (congrArg _ (by simpa using hs))) hn))
      fun hy _ => .create (by simpa using hy) hn
  refine Follows.seq (Follows.ite (fun _ => Follows.lift fun _ _ => rfl)
    fun _ => Follows.pure rfl) fun yaml => ?_
  exact Follows.bind (Follows.call (hcreate yaml) fun diags hd => Follows.bind
    (Follows.failIf fun hdiags => Follows.call
      (.reference (by simpa [not_not.mp hdiags] using hd)) fun _ _ => rfl))

/-- Every run's calls are a log of `Step` from `Stage.start`: `requireStack`, the header,
`GetDecrypter`, the save of the stack if `GetDecrypter` changed the secrets manager, the preview,
the `Save?` prompt without `--yes`, `CreateEnvironment` with `--yes` or once the user confirmed,
and the save of the reference once `CreateEnvironment` succeeded, in this order and each with
the answers `Step` asks of the services; a run that succeeds ends with the save of the
reference. -/
theorem run_follows_stages :
    ∃ t, Steps svc cmd .start (run svc cmd).effects t ∧
      ((run svc cmd).result = .ok () → t = .referenced) :=
  have ⟨t, ht, hq⟩ := run_follows svc cmd
  ⟨t, ht, hq ()⟩

/-- Each project stack `run` saves follows its `GetDecrypter` call on the project stack loaded for
the project and the stack it read, and is either saved right after that call, as `GetDecrypter`
returned it, because it changed the secrets manager; or saved last, right after a
`CreateEnvironment` call that returned no error and no diagnostics for the names `parseEnvName`
gives, with the reference to the environment appended and, unless `--keep-config`, without its
configuration. -/
theorem run_saveProjectStack {stack : Stack} {ps : ProjectStack Cfg Env}
    (h : .saveProjectStack stack ps ∈ (run svc cmd).effects) :
    ∃ project ps₀ dec state ps' pre, Loaded svc project stack ps₀ ∧
      svc.getDecrypter stack ps₀ = .ok (dec, state, ps') ∧
      ((state ≠ .unchanged ∧ ps = ps' ∧ ∃ post, (run svc cmd).effects =
          pre ++ .getDecrypter stack ps₀ :: .saveProjectStack stack ps :: post) ∨
        ∃ envProject envName yaml mid,
          parseEnvName project.name stack.name cmd.envName = (envProject, envName) ∧
          svc.createEnvironment stack.orgName envProject envName yaml = .ok [] ∧
          ps = referenceEnvironment svc ps' (envProject ++ "/" ++ envName) cmd.keepConfig ∧
          (run svc cmd).effects = pre ++ .getDecrypter stack ps₀ ::
            (mid ++ [.createEnvironment stack.orgName envProject envName yaml,
              .saveProjectStack stack ps])) :=
  have ⟨_, ht, _⟩ := run_follows svc cmd
  ht.saveProjectStack_cases h

theorem run_saveProjectStack_secretsSetUp :
    .saveProjectStack ⟨"dev", "acme", "cloud", true⟩ ⟨some (), []⟩ ∈
        (run secretsSetUpServices demoCmd).effects ∧
      ∃ project ps₀ dec state ps' pre,
        Loaded secretsSetUpServices project ⟨"dev", "acme", "cloud", true⟩ ps₀ ∧
        secretsSetUpServices.getDecrypter ⟨"dev", "acme", "cloud", true⟩ ps₀ =
          .ok (dec, state, ps') ∧
        ((state ≠ .unchanged ∧ ⟨some (), []⟩ = ps' ∧
            ∃ post, (run secretsSetUpServices demoCmd).effects =
              pre ++ .getDecrypter ⟨"dev", "acme", "cloud", true⟩ ps₀ ::
                .saveProjectStack ⟨"dev", "acme", "cloud", true⟩ ⟨some (), []⟩ :: post) ∨
          ∃ envProject envName yaml mid,
            parseEnvName project.name "dev" demoCmd.envName = (envProject, envName) ∧
            secretsSetUpServices.createEnvironment "acme" envProject envName yaml = .ok [] ∧
            ⟨some (), []⟩ = referenceEnvironment secretsSetUpServices ps'
              (envProject ++ "/" ++ envName) demoCmd.keepConfig ∧
            (run secretsSetUpServices demoCmd).effects =
              pre ++ .getDecrypter ⟨"dev", "acme", "cloud", true⟩ ps₀ ::
                (mid ++ [.createEnvironment "acme" envProject envName yaml,
                  .saveProjectStack ⟨"dev", "acme", "cloud", true⟩ ⟨some (), []⟩])) :=
  have h : .saveProjectStack ⟨"dev", "acme", "cloud", true⟩ ⟨some (), []⟩ ∈
      (run secretsSetUpServices demoCmd).effects := by
    decide
  ⟨h, run_saveProjectStack secretsSetUpServices demoCmd h⟩

end

end ConfigEnvInit
