import ConfigEnvInit.Render
import ConfigEnvInit.EnvName

/-!
# `pulumi config env init`

The command as `config_env_init.go` runs it: `configEnvInitCmd.run` with `getStackConfig`,
`renderEnvironmentDefinition` and `renderPreview`, and the crypter it makes for the preview.

What the command reaches outside this file is a field of `Services`: the parent `configEnvCmd`'s
workspace, stack and secrets helpers, the environments backend, the ESC evaluator's
`EncryptSecrets`/`DecryptSecrets`, the YAML and JSON encoders, the prompt and the terminal
renderer, each a function of its arguments. A run is a `Logged` value: the calls with a side
effect it made, in order (`Effect`), and Go's result, an error message or success. YAML
documents, Go `[]byte` here, are kept as their text.
-/

namespace ConfigEnvInit

/-! ## Runs with a log of effects -/

/-- A computation that made the calls `effects`, in order, and ended with `result`. -/
structure Logged (ε α : Type) where
  effects : List ε
  result : Except String α

namespace Logged

variable {ε α β : Type}

instance : Monad (Logged ε) where
  pure a := ⟨[], .ok a⟩
  bind c f :=
    match c.result with
    | .ok a => ⟨c.effects ++ (f a).effects, (f a).result⟩
    | .error e => ⟨c.effects, .error e⟩

/-- Return the Go error `msg`. -/
def fail (msg : String) : Logged ε α := ⟨[], .error msg⟩

/-- A call with no side effect. -/
def lift (x : Except String α) : Logged ε α := ⟨[], x⟩

/-- A call with the side effect `e` and the outcome `x`. -/
def call (e : ε) (x : Except String α) : Logged ε α := ⟨[e], x⟩

/-- A side effect that cannot fail. -/
def emit (e : ε) : Logged ε Unit := call e (.ok ())

/-- `x` if `c` holds. -/
def onlyIf (c : Prop) [Decidable c] (x : Logged ε Unit) : Logged ε Unit := if c then x else pure ()

/-- `if c { return errors.New(msg) }`. -/
def failIf (c : Prop) [Decidable c] (msg : String) : Logged ε Unit := onlyIf c (fail msg)

@[simp] theorem pure_eq (a : α) : (pure a : Logged ε α) = ⟨[], .ok a⟩ := rfl

@[simp] theorem mk_ok_bind (es : List ε) (a : α) (f : α → Logged ε β) :
    (⟨es, .ok a⟩ : Logged ε α) >>= f = ⟨es ++ (f a).effects, (f a).result⟩ := rfl

@[simp] theorem mk_error_bind (es : List ε) (e : String) (f : α → Logged ε β) :
    (⟨es, .error e⟩ : Logged ε α) >>= f = ⟨es, .error e⟩ := rfl

@[simp] theorem fail_eq (msg : String) : (fail msg : Logged ε α) = ⟨[], .error msg⟩ := rfl
@[simp] theorem lift_eq (x : Except String α) : (lift x : Logged ε α) = ⟨[], x⟩ := rfl
@[simp] theorem call_eq (e : ε) (x : Except String α) : call e x = ⟨[e], x⟩ := rfl
@[simp] theorem emit_eq (e : ε) : emit e = ⟨[e], .ok ()⟩ := rfl

@[simp] theorem onlyIf_eq (c : Prop) [Decidable c] (x : Logged ε Unit) :
    onlyIf c x = if c then x else ⟨[], .ok ()⟩ := rfl

@[simp] theorem failIf_eq (c : Prop) [Decidable c] (msg : String) :
    (failIf c msg : Logged ε Unit) = if c then ⟨[], .error msg⟩ else ⟨[], .ok ()⟩ := rfl

/-- An effect of `c >>= f` is one of `c`, or one of `f a` once `c` has returned `a`. -/
theorem mem_effects_bind {x : ε} {c : Logged ε α} {f : α → Logged ε β} :
    x ∈ (c >>= f).effects ↔ x ∈ c.effects ∨ ∃ a, c.result = .ok a ∧ x ∈ (f a).effects := by
  obtain ⟨es, r⟩ := c
  cases r <;> simp

theorem mem_effects_onlyIf {x : ε} {c : Prop} [Decidable c] {m : Logged ε Unit} :
    x ∈ (onlyIf c m).effects ↔ c ∧ x ∈ m.effects := by
  by_cases hc : c <;> simp [hc]

theorem result_onlyIf_eq_ok {c : Prop} [Decidable c] {m : Logged ε Unit} {u : Unit} :
    (onlyIf c m).result = .ok u ↔ (c → m.result = .ok ()) := by
  by_cases hc : c <;> simp [hc]

@[simp] theorem effects_failIf (c : Prop) [Decidable c] (msg : String) :
    (failIf c msg : Logged ε Unit).effects = [] := by
  by_cases hc : c <;> simp [hc]

@[simp] theorem result_failIf_eq_ok {c : Prop} [Decidable c] {msg : String} {u : Unit} :
    (failIf c msg : Logged ε Unit).result = .ok u ↔ ¬ c := by
  by_cases hc : c <;> simp [hc]

theorem effects_ite (c : Prop) [Decidable c] (m m' : Logged ε α) :
    (if c then m else m').effects = if c then m.effects else m'.effects := by
  by_cases hc : c <;> simp [hc]

theorem result_ite (c : Prop) [Decidable c] (m m' : Logged ε α) :
    (if c then m else m').result = if c then m.result else m'.result := by
  by_cases hc : c <;> simp [hc]

theorem result_bind_eq_ok {c : Logged ε α} {f : α → Logged ε β} {b : β} :
    (c >>= f).result = .ok b ↔ ∃ a, c.result = .ok a ∧ (f a).result = .ok b := by
  obtain ⟨es, r⟩ := c
  cases r <;> simp

end Logged

@[simp] theorem Except.mapError_eq_ok {ε ε' α : Type} {f : ε → ε'} {x : Except ε α} {a : α} :
    x.mapError f = .ok a ↔ x = .ok a := by
  cases x <;> simp [Except.mapError]

open Logged

/-! ## What the command works with -/

/-- `workspace.Project`, by its name. -/
structure Project where
  name : String

/-- A `backend.Stack` as `run` reads it. -/
structure Stack where
  /-- `stack.Ref().Name()` -/
  name : String
  /-- `OrgName()` -/
  orgName : String
  /-- `stack.Backend().Name()` -/
  backendName : String
  /-- `stack.Backend()` is a `backend.EnvironmentsBackend` -/
  environmentsBackend : Bool
  deriving DecidableEq

/-- `workspace.ProjectStack`, by the two fields `run` writes: `Config` (`none` is the `nil` map)
and `Environment`. -/
structure ProjectStack (Cfg Env : Type) where
  config : Option Cfg
  environment : Env
  deriving DecidableEq

/-- `cmdStack.SecretsManagerState`; `getStackConfig` tells `SecretsManagerUnchanged` from the
rest only. -/
inductive SecretsManagerState where
  | unchanged
  | changed
  deriving DecidableEq

/-- `evalCrypter`: an `eval.Encrypter` and `eval.Decrypter`. -/
structure EvalCrypter where
  encrypt : String → Except String String
  decrypt : String → Except String String

/-- What `run` calls outside `config_env_init.go`. -/
structure Services (Cfg Env Dec Props : Type) where
  /-- `cmd.parent.interactive` -/
  interactive : Bool
  /-- `cmd.parent.ws.ReadProject()` -/
  readProject : Except String Project
  /-- `cmd.parent.requireStack(...)`, offering a new stack and setting it current -/
  requireStack : Except String Stack
  /-- `cmd.parent.loadProjectStack` -/
  loadProjectStack : Project → Stack → Except String (ProjectStack Cfg Env)
  /-- `cmd.parent.ssml.GetDecrypter`, with the project stack as it leaves it -/
  getDecrypter : Stack → ProjectStack Cfg Env →
    Except String (Dec × SecretsManagerState × ProjectStack Cfg Env)
  /-- `cmd.parent.saveProjectStack` -/
  saveProjectStack : Stack → ProjectStack Cfg Env → Except String Unit
  /-- `config.Map.AsDecryptedPropertyMap` -/
  asDecryptedPropertyMap : Option Cfg → Dec → Except String PropertyMap
  /-- `workspace.Environment.Append` -/
  appendEnvironment : Env → String → Env
  /-- `yaml.NewEncoder` with indent 2, then `Encode` -/
  encodeYAML : Rendered → Except String String
  /-- `eval.EncryptSecrets` -/
  encryptSecrets : String → String → EvalCrypter → Except String String
  /-- `eval.DecryptSecrets` -/
  decryptSecrets : String → String → EvalCrypter → Except String String
  /-- `CheckYAMLEnvironment` of the environments backend: the environment's properties and the
  diagnostics -/
  checkYAMLEnvironment : String → String → Except String (Props × List String)
  /-- `json.MarshalIndent` of `esc.NewValue(properties).ToJSON(redact)` -/
  marshalIndent : Props → Bool → Except String String
  /-- `cmdutil.InteractiveTerminal()` -/
  interactiveTerminal : Bool
  /-- `glamour.NewTermRenderer(...)`, by its `Render` -/
  newTermRenderer : Except String (String → Except String String)
  /-- the `Save?` confirmation prompt -/
  confirm : Except String Bool
  /-- `CreateEnvironment` of the environments backend: its diagnostics -/
  createEnvironment : String → String → String → String → Except String (List String)
  /-- the text of a diagnostics list wrapped with `%w` -/
  diagnosticsError : List String → String

/-- `configEnvInitCmd`, by its fields other than `parent`. -/
structure ConfigEnvInitCmd where
  newCrypter : Except String EvalCrypter
  envName : String
  showSecrets : Bool
  keepConfig : Bool
  yes : Bool

/-- The calls of `run` that act outside the command: its writes to `cmd.parent.stdout`, its
dealings with the user and the workspace, the saves of the stack and the environment's creation.
The calls that only read or compute (`ReadProject`, `loadProjectStack`, `AsDecryptedPropertyMap`,
the key, the YAML and JSON encoders, `EncryptSecrets` and `DecryptSecrets`, `CheckYAMLEnvironment`
and the terminal renderer) are not logged. -/
inductive Effect (Cfg Env : Type) where
  /-- a write to `cmd.parent.stdout` -/
  | stdout (text : String)
  /-- `cmd.parent.requireStack` with `OfferNew|SetCurrent`, which may offer to create the stack
  and makes it the current one -/
  | requireStack
  /-- `cmd.parent.ssml.GetDecrypter` for `stack` and its project stack `ps` as loaded, which may
  ask for a passphrase and set up the stack's secrets provider -/
  | getDecrypter (stack : Stack) (ps : ProjectStack Cfg Env)
  /-- the `Save?` confirmation prompt on the terminal -/
  | confirm
  /-- `cmd.parent.saveProjectStack` of `ps` for `stack` -/
  | saveProjectStack (stack : Stack) (ps : ProjectStack Cfg Env)
  /-- `CreateEnvironment` of the environments backend -/
  | createEnvironment (org project name yaml : String)
  deriving DecidableEq

/-! ## The command -/

section
variable {Cfg Env Dec Props : Type} (svc : Services Cfg Env Dec Props)

/-- `configEnvInitCmd.getStackConfig`. -/
def getStackConfig (project : Project) (stack : Stack) :
    Logged (Effect Cfg Env) (ProjectStack Cfg Env × PropertyMap) := do
  let ps ← lift (svc.loadProjectStack project stack)
  let (decrypter, state, ps) ← call (.getDecrypter stack ps) (svc.getDecrypter stack ps)
  onlyIf (state ≠ .unchanged) <|
    call (.saveProjectStack stack ps)
      ((svc.saveProjectStack stack ps).mapError ("saving stack config: " ++ ·))
  let m ← lift (svc.asDecryptedPropertyMap ps.config decrypter)
  pure (ps, m)

/-- `configEnvInitCmd.renderEnvironmentDefinition`. -/
def renderEnvironmentDefinition (envName : String) (encrypter : EvalCrypter) (config : PropertyMap)
    (showSecrets : Bool) : Except String String := do
  let yaml ← svc.encodeYAML (environmentDefinition config)
  if !showSecrets then svc.encryptSecrets envName yaml encrypter else pure yaml

/-- `envPreviewTemplate` executed on the preview and the definition. -/
def envPreviewTemplate (preview definition : String) : String :=
  "# Value\n```json\n" ++ preview ++ "\n```\n# Definition\n```yaml\n" ++ definition ++ "\n```\n"

/-- `configEnvInitCmd.renderPreview`. -/
def renderPreview (org _name yaml : String) (showSecrets : Bool) : Except String String := do
  let (env, diags) ← svc.checkYAMLEnvironment org yaml
  if diags ≠ [] then throw ("internal error: " ++ svc.diagnosticsError diags)
  let envJSON ← (svc.marshalIndent env !showSecrets).mapError ("encoding value: " ++ ·)
  let markdown := envPreviewTemplate envJSON yaml
  if !svc.interactiveTerminal then return markdown
  let render ← svc.newTermRenderer.mapError ("internal error: creating renderer: " ++ ·)
  match render markdown with
  | .ok rendered => pure rendered
  | .error _ => pure markdown

/-- The project stack `run` saves once the environment exists: the environment appended to its
imports and, unless `--keep-config`, its configuration removed. -/
def referenceEnvironment (ps : ProjectStack Cfg Env) (fullName : String) (keepConfig : Bool) :
    ProjectStack Cfg Env :=
  let ps := { ps with environment := svc.appendEnvironment ps.environment fullName }
  if !keepConfig then { ps with config := none } else ps

/-- `configEnvInitCmd.run`. -/
def run (cmd : ConfigEnvInitCmd) : Logged (Effect Cfg Env) Unit := do
  failIf (!cmd.yes && !svc.interactive)
    "--yes must be passed in to proceed when running in non-interactive mode"
  let project ← lift svc.readProject
  let stack ← call .requireStack svc.requireStack
  failIf (!stack.environmentsBackend)
    ("backend " ++ stack.backendName ++ " does not support environments")
  let orgName := stack.orgName
  let (envProject, envName) := parseEnvName project.name stack.name cmd.envName
  emit (.stdout ("Creating environment " ++ envProject ++ "/" ++ envName ++ " for stack " ++
    stack.name ++ "...\n"))
  let (projectStack, config) ← getStackConfig svc project stack
  let crypter ← lift cmd.newCrypter
  let yaml ← lift (renderEnvironmentDefinition svc envName crypter config cmd.showSecrets)
  let preview ← lift (renderPreview svc orgName envName yaml cmd.showSecrets)
  emit (.stdout preview)
  onlyIf (!cmd.yes) do
    let save ← call .confirm svc.confirm
    failIf (!save) "canceled"
  let yaml ← (if !cmd.showSecrets then lift (svc.decryptSecrets envName yaml crypter) else pure yaml)
  let diags ← call (.createEnvironment orgName envProject envName yaml)
    ((svc.createEnvironment orgName envProject envName yaml).mapError ("creating environment: " ++ ·))
  failIf (diags ≠ []) ("internal error creating environment: " ++ svc.diagnosticsError diags)
  let projectStack := referenceEnvironment svc projectStack (envProject ++ "/" ++ envName)
    cmd.keepConfig
  call (.saveProjectStack stack projectStack)
    ((svc.saveProjectStack stack projectStack).mapError ("saving stack config: " ++ ·))

end

end ConfigEnvInit
