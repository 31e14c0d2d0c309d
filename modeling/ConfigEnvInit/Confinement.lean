import ConfigEnvInit.Render

/-!
# Secrets stay inside their `fn::secret` maps

Two configuration values that are identical except inside the elements of secret nodes
(`PropertyValue.EqOutsideSecrets`) render to two values that are identical except inside the
`{"fn::secret": _}` maps `render` makes for those secret nodes (`AgreeOutsideSecrets`). The
relation on rendered values is indexed by the input, so the places where the two renderings may
differ are exactly the secret positions of the input, at any depth.
-/

namespace ConfigEnvInit

open PropertyValue

namespace PropertyValue

mutual
/-- `v` and `w` are identical except inside the elements of secret nodes. -/
def EqOutsideSecrets : PropertyValue → PropertyValue → Prop
  | .secret _, .secret _ => True
  | .array vs, .array ws => EqOutsideSecretsArray vs ws
  | .object m, .object m' => ∀ k, EqOutsideSecretsEntry (m k) (m' k)
  | v, w => v = w

/-- `EqOutsideSecrets`, element by element. -/
def EqOutsideSecretsArray : List PropertyValue → List PropertyValue → Prop
  | [], [] => True
  | v :: vs, w :: ws => EqOutsideSecrets v w ∧ EqOutsideSecretsArray vs ws
  | _, _ => False

/-- `EqOutsideSecrets` at one key of two objects. -/
def EqOutsideSecretsEntry : Option PropertyValue → Option PropertyValue → Prop
  | some v, some w => EqOutsideSecrets v w
  | o, o' => o = o'
end

end PropertyValue

mutual
/-- `AgreeOutsideSecrets v r₁ r₂`: `r₁` and `r₂` are equal except inside the maps
`{"fn::secret": _}` that both have at each secret node of `v`. -/
def AgreeOutsideSecrets : PropertyValue → Rendered → Rendered → Prop
  | .secret _, r₁, r₂ => ∃ x y, r₁ = secretMap x ∧ r₂ = secretMap y
  | .array vs, .list xs, .list ys => AgreeOutsideSecretsArray vs xs ys
  | .object m, .map m₁, .map m₂ => ∀ k, AgreeOutsideSecretsEntry (m k) (m₁ k) (m₂ k)
  | _, r₁, r₂ => r₁ = r₂

/-- `AgreeOutsideSecrets`, element by element. -/
def AgreeOutsideSecretsArray : List PropertyValue → List Rendered → List Rendered → Prop
  | v :: vs, x :: xs, y :: ys => AgreeOutsideSecrets v x y ∧ AgreeOutsideSecretsArray vs xs ys
  | _, xs, ys => xs = ys

/-- `AgreeOutsideSecrets` at one key. -/
def AgreeOutsideSecretsEntry : Option PropertyValue → Option Rendered → Option Rendered → Prop
  | some v, some x, some y => AgreeOutsideSecrets v x y
  | _, o₁, o₂ => o₁ = o₂
end

mutual
theorem render_agreeOutsideSecrets :
    ∀ {v w : PropertyValue}, v.EqOutsideSecrets w → AgreeOutsideSecrets v (render v) (render w)
  | .secret _, w, h => by
    cases w <;> cases h
    exact ⟨_, _, rfl, rfl⟩
  | .array _, w, h => by
    cases w
    case array => exact renderArray_agreeOutsideSecrets h
    all_goals cases h
  | .object _, w, h => by
    cases w
    case object => exact fun k => renderEntry_agreeOutsideSecrets (h k)
    all_goals cases h
  | .null, w, h | .bool _, w, h | .number _, w, h | .string _, w, h | .asset, w, h
  | .archive, w, h | .computed, w, h | .output, w, h | .resourceReference, w, h => by
    cases w <;> cases h
    exact rfl

theorem renderArray_agreeOutsideSecrets :
    ∀ {vs ws : List PropertyValue}, EqOutsideSecretsArray vs ws →
      AgreeOutsideSecretsArray vs (renderArray vs) (renderArray ws)
  | [], [], _ => rfl
  | _ :: _, _ :: _, h => ⟨render_agreeOutsideSecrets h.1, renderArray_agreeOutsideSecrets h.2⟩
  | [], _ :: _, h | _ :: _, [], h => h.elim

theorem renderEntry_agreeOutsideSecrets :
    ∀ {o o' : Option PropertyValue}, EqOutsideSecretsEntry o o' →
      AgreeOutsideSecretsEntry o (renderEntry o) (renderEntry o')
  | some _, some _, h => render_agreeOutsideSecrets h
  | none, _, h => by cases h; rfl
  | some _, none, h => by cases h
end

/-- **Secret confinement.** If two values differ only inside the elements of secret nodes, their
renderings differ only inside the `{"fn::secret": _}` maps made for those nodes. -/
theorem render_confines_secrets {v w : PropertyValue} (h : v.EqOutsideSecrets w) :
    AgreeOutsideSecrets v (render v) (render w) :=
  render_agreeOutsideSecrets h

theorem render_confines_secrets_array :
    (PropertyValue.array [.secret (.string "a"), .bool true]).EqOutsideSecrets
        (.array [.secret (.string "b"), .bool true]) ∧
      AgreeOutsideSecrets (.array [.secret (.string "a"), .bool true])
        (render (.array [.secret (.string "a"), .bool true]))
        (render (.array [.secret (.string "b"), .bool true])) :=
  have h : (PropertyValue.array [.secret (.string "a"), .bool true]).EqOutsideSecrets
      (.array [.secret (.string "b"), .bool true]) := ⟨trivial, rfl, trivial⟩
  ⟨h, render_confines_secrets h⟩

theorem PropertyValue.EqOutsideSecrets.singletonMap {v w : PropertyValue} (k : String)
    (h : v.EqOutsideSecrets w) :
    (PropertyValue.object (singletonMap k v)).EqOutsideSecrets (.object (singletonMap k w)) := by
  intro k'
  by_cases hk : k' = k
  · subst hk; simpa [EqOutsideSecretsEntry] using h
  · simp [singletonMap_of_ne _ hk, EqOutsideSecretsEntry]

/-- The document `renderEnvironmentDefinition` encodes keeps secrets inside their `fn::secret`
maps as well: it is the rendering of the configuration under `values.pulumiConfig`. -/
theorem environmentDefinition_confines_secrets {c₁ c₂ : PropertyMap}
    (h : (PropertyValue.object c₁).EqOutsideSecrets (.object c₂)) :
    AgreeOutsideSecrets
      (.object (singletonMap "values" (.object (singletonMap "pulumiConfig" (.object c₁)))))
      (environmentDefinition c₁) (environmentDefinition c₂) := by
  rw [environmentDefinition_eq_render, environmentDefinition_eq_render]
  exact render_agreeOutsideSecrets ((h.singletonMap _).singletonMap _)

theorem environmentDefinition_confines_secrets_token :
    (PropertyValue.object (singletonMap "token" (.secret (.string "a")))).EqOutsideSecrets
        (.object (singletonMap "token" (.secret (.string "b")))) ∧
      AgreeOutsideSecrets (.object (singletonMap "values" (.object (singletonMap "pulumiConfig"
          (.object (singletonMap "token" (.secret (.string "a"))))))))
        (environmentDefinition (singletonMap "token" (.secret (.string "a"))))
        (environmentDefinition (singletonMap "token" (.secret (.string "b")))) :=
  have h : (PropertyValue.object (singletonMap "token" (.secret (.string "a")))).EqOutsideSecrets
      (.object (singletonMap "token" (.secret (.string "b")))) :=
    PropertyValue.EqOutsideSecrets.singletonMap "token" trivial
  ⟨h, environmentDefinition_confines_secrets h⟩

end ConfigEnvInit
