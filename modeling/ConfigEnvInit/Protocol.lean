import ConfigEnvInit.Command

/-!
# The order of the command's calls

What `pulumi config env init` is for, told by the calls it makes outside itself and the answers
they need: once `--yes` or an interactive session let it start and the project is read, it
requires the stack, announces the environment it is about to create, calls `GetDecrypter` on the
project stack it loaded, saves that stack if `GetDecrypter` has just set up its secrets provider,
shows the preview, asks `Save?` unless `--yes` was given, creates the environment once the user
agreed, under the names `parseEnvName` gives, and saves the stack with the reference to it once
`CreateEnvironment` returned no error and no diagnostics.

`Step` is that order as a relation between stages that carry what the command has learnt on the
way, and `Steps` its logs. `History` says what a log that reaches a stage has done; it holds of
every log of the machine (`History.steps`). From it, `Steps.saveProjectStack_cases`: each save of
the stack is the secrets-provider save right after `GetDecrypter`, or the last call, the save of
the reference right after `CreateEnvironment`.

`Logged.Follows s m Q` is a program logic over the machine: the calls of `m` are a log of the
machine from `s`, and once `m` returns `a` the log ends at a stage `t` with `Q a t`. It has one
rule per combinator of `Logged`, so that a program is checked against the machine one call at a
time and never unfolded as a whole.
-/

namespace ConfigEnvInit

/-- The stages of the command, with the project, the stack and the project stack it works on. -/
inductive Stage (Cfg Env : Type) where
  /-- nothing done yet -/
  | start
  /-- the project read and `requireStack` called -/
  | stackRequired (project : Project)
  /-- `Creating environment ... for stack ...` written -/
  | announced (project : Project) (stack : Stack)
  /-- `GetDecrypter` called on the project stack `ps` as loaded -/
  | decrypting (project : Project) (stack : Stack) (ps : ProjectStack Cfg Env)
  /-- `ps`, as `GetDecrypter` left it, saved -/
  | secretsSaved (project : Project) (stack : Stack) (ps : ProjectStack Cfg Env)
  /-- the preview of the definition of `ps`'s configuration written -/
  | previewed (project : Project) (stack : Stack) (ps : ProjectStack Cfg Env)
  /-- the user asked `Save?` -/
  | prompted (project : Project) (stack : Stack) (ps : ProjectStack Cfg Env)
  /-- `CreateEnvironment` called for `envProject/envName` with the document `yaml` -/
  | created (stack : Stack) (ps : ProjectStack Cfg Env) (envProject envName yaml : String)
  /-- the stack saved with the reference to the environment -/
  | referenced

section
variable {Cfg Env Dec Props : Type} (svc : Services Cfg Env Dec Props) (cmd : ConfigEnvInitCmd)

/-- The calls the command may make at each stage, with what the services must have answered for
it to make them, and the stage each leads to. -/
inductive Step : Stage Cfg Env → Effect Cfg Env → Stage Cfg Env → Prop where
  /-- `requireStack`, once the session may go on and the project was read -/
  | requireStack {project : Project} (hy : cmd.yes = false → svc.interactive = true)
      (hp : svc.readProject = .ok project) :
      Step .start .requireStack (.stackRequired project)
  /-- the header, naming the environment, once the stack's backend has environments -/
  | announce {project : Project} {stack : Stack} {envProject envName : String}
      (hs : svc.requireStack = .ok stack) (he : stack.environmentsBackend = true)
      (hn : parseEnvName project.name stack.name cmd.envName = (envProject, envName)) :
      Step (.stackRequired project)
        (.stdout ("Creating environment " ++ envProject ++ "/" ++ envName ++ " for stack " ++
          stack.name ++ "...\n"))
        (.announced project stack)
  /-- `GetDecrypter` on the project stack loaded for the project and the stack -/
  | getDecrypter {project : Project} {stack : Stack} {ps : ProjectStack Cfg Env}
      (hl : svc.loadProjectStack project stack = .ok ps) :
      Step (.announced project stack) (.getDecrypter stack ps) (.decrypting project stack ps)
  /-- the save of the project stack `GetDecrypter` returned, once it changed the secrets
  manager -/
  | saveSecretsProvider {project : Project} {stack : Stack} {ps₀ ps : ProjectStack Cfg Env}
      {dec : Dec} {state : SecretsManagerState}
      (hd : svc.getDecrypter stack ps₀ = .ok (dec, state, ps)) (hc : state ≠ .unchanged) :
      Step (.decrypting project stack ps₀) (.saveProjectStack stack ps)
        (.secretsSaved project stack ps)
  /-- the preview, once `GetDecrypter` left the secrets manager unchanged -/
  | preview {project : Project} {stack : Stack} {ps₀ ps : ProjectStack Cfg Env} {dec : Dec}
      {text : String} (hd : svc.getDecrypter stack ps₀ = .ok (dec, .unchanged, ps)) :
      Step (.decrypting project stack ps₀) (.stdout text) (.previewed project stack ps)
  /-- the preview, once the save of the stack succeeded -/
  | previewSaved {project : Project} {stack : Stack} {ps : ProjectStack Cfg Env} {text : String}
      (hs : svc.saveProjectStack stack ps = .ok ()) :
      Step (.secretsSaved project stack ps) (.stdout text) (.previewed project stack ps)
  /-- the `Save?` prompt, without `--yes` -/
  | prompt {project : Project} {stack : Stack} {ps : ProjectStack Cfg Env} (hy : cmd.yes = false) :
      Step (.previewed project stack ps) .confirm (.prompted project stack ps)
  /-- `CreateEnvironment` right after the preview, with `--yes` -/
  | create {project : Project} {stack : Stack} {ps : ProjectStack Cfg Env}
      {envProject envName yaml : String} (hy : cmd.yes = true)
      (hn : parseEnvName project.name stack.name cmd.envName = (envProject, envName)) :
      Step (.previewed project stack ps) (.createEnvironment stack.orgName envProject envName yaml)
        (.created stack ps envProject envName yaml)
  /-- `CreateEnvironment` once the user confirmed -/
  | createConfirmed {project : Project} {stack : Stack} {ps : ProjectStack Cfg Env}
      {envProject envName yaml : String} (hc : svc.confirm = .ok true)
      (hn : parseEnvName project.name stack.name cmd.envName = (envProject, envName)) :
      Step (.prompted project stack ps) (.createEnvironment stack.orgName envProject envName yaml)
        (.created stack ps envProject envName yaml)
  /-- the save of the stack with the reference, once `CreateEnvironment` returned no error and no
  diagnostics -/
  | reference {stack : Stack} {ps : ProjectStack Cfg Env} {envProject envName yaml : String}
      (hc : svc.createEnvironment stack.orgName envProject envName yaml = .ok []) :
      Step (.created stack ps envProject envName yaml)
        (.saveProjectStack stack
          (referenceEnvironment svc ps (envProject ++ "/" ++ envName) cmd.keepConfig))
        .referenced

/-- The logs of calls the command may make from `s`, ending at `t`. -/
inductive Steps : Stage Cfg Env → List (Effect Cfg Env) → Stage Cfg Env → Prop where
  | nil (s : Stage Cfg Env) : Steps s [] s
  | cons {s s' t : Stage Cfg Env} {e : Effect Cfg Env} {l : List (Effect Cfg Env)} :
      Step svc cmd s e s' → Steps s' l t → Steps s (e :: l) t

variable {svc cmd}

namespace Steps

theorem single {s t : Stage Cfg Env} {e : Effect Cfg Env} (h : Step svc cmd s e t) :
    Steps svc cmd s [e] t :=
  .cons h (.nil t)

theorem append {s t u : Stage Cfg Env} {l₁ l₂ : List (Effect Cfg Env)}
    (h₁ : Steps svc cmd s l₁ t) (h₂ : Steps svc cmd t l₂ u) : Steps svc cmd s (l₁ ++ l₂) u := by
  induction h₁ with
  | nil => exact h₂
  | cons hs _ ih => exact .cons hs (ih h₂)

theorem of_append {s u : Stage Cfg Env} :
    ∀ {l₁ l₂ : List (Effect Cfg Env)}, Steps svc cmd s (l₁ ++ l₂) u →
      ∃ t, Steps svc cmd s l₁ t ∧ Steps svc cmd t l₂ u
  | [], _, h => ⟨s, .nil s, h⟩
  | _ :: _, _, .cons hs h =>
    have ⟨t, h₁, h₂⟩ := of_append h
    ⟨t, .cons hs h₁, h₂⟩

/-- The save of the reference is the command's last call. -/
theorem eq_nil_of_referenced {t : Stage Cfg Env} {l : List (Effect Cfg Env)}
    (h : Steps svc cmd .referenced l t) : l = [] := by
  cases h with
  | nil => rfl
  | cons hs _ => cases hs

end Steps

variable (svc)

/-- The project and the stack the command reads, and the project stack it loads for them. -/
structure Loaded (project : Project) (stack : Stack) (ps : ProjectStack Cfg Env) : Prop where
  readProject : svc.readProject = .ok project
  requireStack : svc.requireStack = .ok stack
  loadProjectStack : svc.loadProjectStack project stack = .ok ps

/-- The log `l` called `GetDecrypter` on the project stack loaded for `project` and `stack`,
which returned `ps`. -/
def DecryptedIn (l : List (Effect Cfg Env)) (project : Project) (stack : Stack)
    (ps : ProjectStack Cfg Env) : Prop :=
  ∃ ps₀ dec state pre mid, Loaded svc project stack ps₀ ∧
    svc.getDecrypter stack ps₀ = .ok (dec, state, ps) ∧ l = pre ++ .getDecrypter stack ps₀ :: mid

theorem DecryptedIn.append {l : List (Effect Cfg Env)} {project : Project} {stack : Stack}
    {ps : ProjectStack Cfg Env} (h : DecryptedIn svc l project stack ps)
    (l' : List (Effect Cfg Env)) :
    DecryptedIn svc (l ++ l') project stack ps := by
  obtain ⟨ps₀, dec, state, pre, mid, hl, hd, rfl⟩ := h
  exact ⟨ps₀, dec, state, pre, mid ++ l', hl, hd, by simp⟩

variable (cmd)

/-- What a log that reaches a stage has done: read the project and the stack, called
`GetDecrypter` on the project stack loaded for them (last, when decrypting), and, once the
environment is created, called `CreateEnvironment` last, under the names `parseEnvName` gives. -/
def History : List (Effect Cfg Env) → Stage Cfg Env → Prop
  | _, .start => True
  | _, .stackRequired project => svc.readProject = .ok project
  | _, .announced project stack => svc.readProject = .ok project ∧ svc.requireStack = .ok stack
  | l, .decrypting project stack ps₀ =>
    Loaded svc project stack ps₀ ∧ ∃ pre, l = pre ++ [.getDecrypter stack ps₀]
  | l, .secretsSaved project stack ps => DecryptedIn svc l project stack ps
  | l, .previewed project stack ps => DecryptedIn svc l project stack ps
  | l, .prompted project stack ps => DecryptedIn svc l project stack ps
  | l, .created stack ps envProject envName yaml =>
    ∃ project pre, parseEnvName project.name stack.name cmd.envName = (envProject, envName) ∧
      l = pre ++ [.createEnvironment stack.orgName envProject envName yaml] ∧
      DecryptedIn svc pre project stack ps
  | _, .referenced => True

variable {svc cmd}

theorem History.step {l : List (Effect Cfg Env)} {s s' : Stage Cfg Env} {e : Effect Cfg Env}
    (hh : History svc cmd l s) (hs : Step svc cmd s e s') : History svc cmd (l ++ [e]) s' := by
  cases hs with
  | requireStack _ hp => exact hp
  | announce hs _ _ => exact ⟨hh, hs⟩
  | getDecrypter hl => exact ⟨⟨hh.1, hh.2, hl⟩, l, rfl⟩
  | saveSecretsProvider hd _ | preview hd =>
    obtain ⟨hl, pre, rfl⟩ := hh
    exact ⟨_, _, _, pre, _, hl, hd, List.append_assoc _ _ _⟩
  | previewSaved _ | prompt _ => exact hh.append svc _
  | create _ hn | createConfirmed _ hn => exact ⟨_, l, hn, rfl, hh⟩
  | reference _ => trivial

/-- Every log of the machine keeps `History`. -/
theorem History.steps {l₀ l : List (Effect Cfg Env)} {s t : Stage Cfg Env}
    (hh : History svc cmd l₀ s) (h : Steps svc cmd s l t) : History svc cmd (l₀ ++ l) t := by
  induction h generalizing l₀ with
  | nil => simpa using hh
  | cons hs _ ih => simpa using ih (hh.step hs)

/-- Each save of the stack in a log from the start follows the `GetDecrypter` call on the
project stack loaded for it, and is either right after that call, of the project stack
`GetDecrypter` returned when it changed the secrets manager, or the last call, right after a
`CreateEnvironment` call that returned no error and no diagnostics under the names `parseEnvName`
gives, of that project stack with the reference to the environment. -/
theorem Steps.saveProjectStack_cases {l : List (Effect Cfg Env)} {t : Stage Cfg Env}
    {stack : Stack} {ps : ProjectStack Cfg Env} (h : Steps svc cmd .start l t)
    (hm : .saveProjectStack stack ps ∈ l) :
    ∃ project ps₀ dec state ps' pre, Loaded svc project stack ps₀ ∧
      svc.getDecrypter stack ps₀ = .ok (dec, state, ps') ∧
      ((state ≠ .unchanged ∧ ps = ps' ∧
          ∃ post, l = pre ++ .getDecrypter stack ps₀ :: .saveProjectStack stack ps :: post) ∨
        ∃ envProject envName yaml mid,
          parseEnvName project.name stack.name cmd.envName = (envProject, envName) ∧
          svc.createEnvironment stack.orgName envProject envName yaml = .ok [] ∧
          ps = referenceEnvironment svc ps' (envProject ++ "/" ++ envName) cmd.keepConfig ∧
          l = pre ++ .getDecrypter stack ps₀ ::
            (mid ++ [.createEnvironment stack.orgName envProject envName yaml,
              .saveProjectStack stack ps])) := by
  obtain ⟨l₁, l₂, rfl⟩ := List.append_of_mem hm
  obtain ⟨s, h₁, _ | ⟨hs, h₂⟩⟩ := h.of_append
  have hh : History svc cmd l₁ s := by
    simpa using History.steps (show History svc cmd [] .start from trivial) h₁
  cases hs with
  | saveSecretsProvider hd hc =>
    obtain ⟨hl, pre, rfl⟩ := hh
    exact ⟨_, _, _, _, _, pre, hl, hd, .inl ⟨hc, rfl, l₂, by simp⟩⟩
  | reference hc =>
    obtain ⟨project, _, hn, rfl, ps₀, dec, state, pre, mid, hl, hd, rfl⟩ := hh
    obtain rfl := h₂.eq_nil_of_referenced
    exact ⟨project, ps₀, dec, state, _, pre, hl, hd, .inr ⟨_, _, _, mid, hn, hc, rfl, by simp⟩⟩

end

namespace Logged

section
variable {Cfg Env Dec Props α β : Type} {svc : Services Cfg Env Dec Props} {cmd : ConfigEnvInitCmd}
  {s : Stage Cfg Env}

variable (svc cmd) in
/-- `m` makes calls the command may make from the stage `s` and, once it returns `a`, leaves the
command at a stage `t` with `Q a t`. -/
def Follows (s : Stage Cfg Env) (m : Logged (Effect Cfg Env) α) (Q : α → Stage Cfg Env → Prop) :
    Prop :=
  ∃ t, Steps svc cmd s m.effects t ∧ ∀ a, m.result = .ok a → Q a t

theorem Follows.mono {m : Logged (Effect Cfg Env) α} {Q Q' : α → Stage Cfg Env → Prop}
    (h : Follows svc cmd s m Q) (hq : ∀ a t, Q a t → Q' a t) : Follows svc cmd s m Q' :=
  have ⟨t, ht, hQ⟩ := h
  ⟨t, ht, fun a ha => hq a t (hQ a ha)⟩

theorem Follows.bind {m : Logged (Effect Cfg Env) α} {f : α → Logged (Effect Cfg Env) β}
    {R : β → Stage Cfg Env → Prop} (h : Follows svc cmd s m fun a t => Follows svc cmd t (f a) R) :
    Follows svc cmd s (m >>= f) R := by
  obtain ⟨es, r⟩ := m
  obtain ⟨t, ht, hf⟩ := h
  cases r with
  | ok a =>
    obtain ⟨u, hu, hR⟩ := hf a rfl
    exact ⟨u, ht.append hu, hR⟩
  | error e => exact ⟨t, ht, nofun⟩

/-- Sequencing through a stage: `m` leaves the command at `t` whatever it returns. -/
theorem Follows.seq {t : Stage Cfg Env} {m : Logged (Effect Cfg Env) α}
    {f : α → Logged (Effect Cfg Env) β} {R : β → Stage Cfg Env → Prop}
    (h : Follows svc cmd s m fun _ t' => t' = t) (hf : ∀ a, Follows svc cmd t (f a) R) :
    Follows svc cmd s (m >>= f) R :=
  Follows.bind (h.mono fun a _ ht => ht ▸ hf a)

theorem Follows.pure {a : α} {Q : α → Stage Cfg Env → Prop} (h : Q a s) :
    Follows svc cmd s (Pure.pure a : Logged (Effect Cfg Env) α) Q :=
  ⟨s, .nil s, by rintro _ ⟨⟩; exact h⟩

theorem Follows.lift {x : Except String α} {Q : α → Stage Cfg Env → Prop}
    (h : ∀ a, x = .ok a → Q a s) :
    Follows svc cmd s (Logged.lift x : Logged (Effect Cfg Env) α) Q :=
  ⟨s, .nil s, h⟩

theorem Follows.call {e : Effect Cfg Env} {x : Except String α} {s' : Stage Cfg Env}
    {Q : α → Stage Cfg Env → Prop} (hs : Step svc cmd s e s') (h : ∀ a, x = .ok a → Q a s') :
    Follows svc cmd s (Logged.call e x) Q :=
  ⟨s', .single hs, h⟩

theorem Follows.ite {c : Prop} [Decidable c] {m m' : Logged (Effect Cfg Env) α}
    {Q : α → Stage Cfg Env → Prop} (h : c → Follows svc cmd s m Q)
    (h' : ¬ c → Follows svc cmd s m' Q) : Follows svc cmd s (if c then m else m') Q := by
  by_cases hc : c
  · simpa [hc] using h hc
  · simpa [hc] using h' hc

theorem Follows.onlyIf {c : Prop} [Decidable c] {x : Logged (Effect Cfg Env) Unit}
    {Q : Unit → Stage Cfg Env → Prop} (h : c → Follows svc cmd s x Q) (hn : ¬ c → Q () s) :
    Follows svc cmd s (Logged.onlyIf c x) Q :=
  Follows.ite h fun hc => Follows.pure (hn hc)

theorem Follows.failIf {c : Prop} [Decidable c] {msg : String} {Q : Unit → Stage Cfg Env → Prop}
    (h : ¬ c → Q () s) : Follows svc cmd s (Logged.failIf c msg : Logged (Effect Cfg Env) Unit) Q :=
  Follows.onlyIf (fun _ => ⟨s, .nil s, nofun⟩) h

end

end Logged

end ConfigEnvInit
