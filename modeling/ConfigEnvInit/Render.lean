import ConfigEnvInit.PropertyValue

/-!
# `configEnvInitCmd.render`

`render` turns the stack's decrypted configuration into the Go value that becomes the
environment definition: scalars are kept, arrays and objects are rendered element by element,
and a secret becomes the single-key map `{"fn::secret": _}` of its rendered element. Everything
else renders as `nil`.

The map a secret becomes is also what an object whose only key is `fn::secret` becomes, so
`render` is not injective (`render_fnSecret_object`); it is injective on configuration values
without such objects (`render_inj_of_every`).
-/

namespace ConfigEnvInit

open PropertyValue

/-- The map `render` gives a secret whose element renders as `x`. -/
def secretMap (x : Rendered) : Rendered := .map (singletonMap fnSecret x)

mutual
/-- `configEnvInitCmd.render`. -/
def render : PropertyValue → Rendered
  | .bool b => .bool b
  | .number n => .number n
  | .string s => .string s
  | .array vs => .list (renderArray vs)
  | .object m => .map fun k => renderEntry (m k)
  | .secret e => .map (singletonMap fnSecret (render e))
  | _ => .nil

/-- The loop of `render` over an array's elements. -/
def renderArray : List PropertyValue → List Rendered
  | [] => []
  | v :: vs => render v :: renderArray vs

/-- The loop of `render` over an object, at one key. -/
def renderEntry : Option PropertyValue → Option Rendered
  | none => none
  | some v => some (render v)
end

@[simp] theorem renderArray_eq_map (vs : List PropertyValue) : renderArray vs = vs.map render := by
  induction vs with
  | nil => rfl
  | cons v vs ih => simp [renderArray, ih]

@[simp] theorem renderEntry_eq_map (o : Option PropertyValue) : renderEntry o = o.map render := by
  cases o <;> rfl

theorem secretMap_inj {x y : Rendered} (h : secretMap x = secretMap y) : x = y :=
  singletonMap_inj (Rendered.map.inj h)

/-- An object that renders as `secretMap x` is the single-key map `{"fn::secret": v}`. -/
theorem isFnSecretObject_of_render_eq_secretMap {m : PropertyMap} {x : Rendered}
    (h : render (.object m) = secretMap x) : (PropertyValue.object m).IsFnSecretObject := by
  have hk (k : String) : (m k).map render = singletonMap fnSecret x k := by
    simpa using congrFun (Rendered.map.inj h) k
  obtain ⟨v, hv⟩ := Option.map_eq_some'.mp ((hk fnSecret).trans (singletonMap_self _ _))
  refine ⟨v, funext fun k => ?_⟩
  by_cases hne : k = fnSecret
  · subst hne; simp [hv.1]
  · simpa [singletonMap_of_ne _ hne] using hk k

theorem renderEntry_singletonMap (k : String) (v : PropertyValue) :
    (fun k' => renderEntry (singletonMap k v k')) = singletonMap k (render v) := by
  funext k'
  by_cases hk : k' = k
  · subst hk; simp
  · simp [singletonMap_of_ne _ hk]

/-- An object whose only key is `fn::secret` renders exactly as the secret of its value. -/
theorem render_fnSecret_object (v : PropertyValue) :
    render (.object (singletonMap fnSecret v)) = render (.secret v) :=
  congrArg Rendered.map (renderEntry_singletonMap fnSecret v)

/-- The document `renderEnvironmentDefinition` encodes: the rendered configuration under
`values.pulumiConfig`. -/
def environmentDefinition (config : PropertyMap) : Rendered :=
  .map (singletonMap "values" (.map (singletonMap "pulumiConfig" (render (.object config)))))

/-- The document is the rendering of the configuration nested in two single-key objects. -/
theorem environmentDefinition_eq_render (config : PropertyMap) :
    environmentDefinition config = render (.object (singletonMap "values"
      (.object (singletonMap "pulumiConfig" (.object config))))) := by
  simp only [environmentDefinition, render, renderEntry_singletonMap]

/-! ## Injectivity away from `fn::secret` objects -/

section
variable {p : PropertyValue → Prop}

theorem eq_null_of_render_eq_nil (hp : ∀ n, p n → n.IsConfigNode) :
    ∀ {w : PropertyValue}, w.Every p → render w = .nil → w = .null
  | .null, _, _ => rfl
  | .asset, hw, _ | .archive, hw, _ | .computed, hw, _ | .output, hw, _
  | .resourceReference, hw, _ => (hp _ hw).elim
  | .bool _, _, h | .number _, _, h | .string _, _, h | .array _, _, h | .object _, _, h
  | .secret _, _, h => by simp [render] at h

mutual
theorem render_inj_of_every (hp : ∀ n, p n → n.IsConfigNode ∧ ¬ n.IsFnSecretObject) :
    ∀ {v w : PropertyValue}, v.Every p → w.Every p → render v = render w → v = w
  | .null, _, _, hw, h => (eq_null_of_render_eq_nil (fun n hn => (hp n hn).1) hw h.symm).symm
  | .bool _, w, _, _, h | .number _, w, _, _, h | .string _, w, _, _, h => by
    cases w <;> simp_all [render]
  | .array vs, w, hv, hw, h => by
    cases w <;> simp only [render, reduceCtorEq, Rendered.list.injEq] at h
    exact congrArg _ (renderArray_inj_of_every hp hv.2 hw.2 h)
  | .object m, w, hv, hw, h => by
    cases w <;> simp only [render, reduceCtorEq] at h
    case object m' => exact congrArg _ <| funext fun k =>
      renderEntry_inj_of_every hp (hv.2 k) (hw.2 k) (congrFun (Rendered.map.inj h) k)
    case secret e => exact ((hp _ hv.1).2 (isFnSecretObject_of_render_eq_secretMap h)).elim
  | .secret e, w, hv, hw, h => by
    cases w <;> simp only [render, reduceCtorEq] at h
    case object m => exact ((hp _ hw.1).2 (isFnSecretObject_of_render_eq_secretMap h.symm)).elim
    case secret e' => exact congrArg _ (render_inj_of_every hp hv.2 hw.2 (secretMap_inj h))
  | .asset, _, hv, _, _ | .archive, _, hv, _, _ | .computed, _, hv, _, _ | .output, _, hv, _, _
  | .resourceReference, _, hv, _, _ => ((hp _ hv).1).elim

theorem renderArray_inj_of_every (hp : ∀ n, p n → n.IsConfigNode ∧ ¬ n.IsFnSecretObject) :
    ∀ {vs ws : List PropertyValue}, EveryArray p vs → EveryArray p ws →
      renderArray vs = renderArray ws → vs = ws
  | [], [], _, _, _ => rfl
  | v :: vs, w :: ws, hv, hw, h => by
    simp only [renderArray, List.cons.injEq] at h
    rw [render_inj_of_every hp hv.1 hw.1 h.1, renderArray_inj_of_every hp hv.2 hw.2 h.2]
  | [], _ :: _, _, _, h | _ :: _, [], _, _, h => by simp [renderArray] at h

theorem renderEntry_inj_of_every (hp : ∀ n, p n → n.IsConfigNode ∧ ¬ n.IsFnSecretObject) :
    ∀ {o o' : Option PropertyValue}, EveryEntry p o → EveryEntry p o' →
      renderEntry o = renderEntry o' → o = o'
  | none, none, _, _, _ => rfl
  | some v, some w, hv, hw, h =>
    congrArg some (render_inj_of_every hp hv hw (Option.some.inj h))
  | none, some _, _, _, h | some _, none, _, _, h => by simp [renderEntry] at h
end

end

/-- On configuration values in which no object is the single-key map `{"fn::secret": _}`,
`render` is injective. -/
theorem render_injective_of_noFnSecretObject {v w : PropertyValue} (hv : v.IsConfigValue)
    (hw : w.IsConfigValue) (nv : v.NoFnSecretObject) (nw : w.NoFnSecretObject)
    (h : render v = render w) : v = w :=
  render_inj_of_every (fun _ hn => hn) (hv.and nv) (hw.and nw) h

theorem render_injective_of_noFnSecretObject_secret :
    (PropertyValue.secret (.string "a")).IsConfigValue ∧
      (PropertyValue.secret (.string "a")).NoFnSecretObject ∧
      (render (.secret (.string "a")) = render (.secret (.string "a")) →
        PropertyValue.secret (.string "a") = .secret (.string "a")) := by
  have hc : (PropertyValue.secret (.string "a")).IsConfigValue := ⟨trivial, trivial⟩
  have hn : (PropertyValue.secret (.string "a")).NoFnSecretObject := ⟨id, id⟩
  exact ⟨hc, hn, render_injective_of_noFnSecretObject hc hc hn hn⟩

/-- The plain object `{"fn::secret": "a"}` and the secret `"a"` are both configuration values,
and `render` does not tell them apart. -/
theorem render_fnSecret_object_collides :
    (PropertyValue.object (singletonMap fnSecret (.string "a"))).IsConfigValue ∧
      (PropertyValue.secret (.string "a")).IsConfigValue ∧
      render (.object (singletonMap fnSecret (.string "a"))) = render (.secret (.string "a")) ∧
      PropertyValue.object (singletonMap fnSecret (.string "a")) ≠ .secret (.string "a") := by
  refine ⟨⟨trivial, fun k => ?_⟩, ⟨trivial, trivial⟩, render_fnSecret_object _, nofun⟩
  by_cases hk : k = fnSecret
  · subst hk; simp only [singletonMap_self]; trivial
  · simp only [singletonMap_of_ne _ hk]; trivial

end ConfigEnvInit
