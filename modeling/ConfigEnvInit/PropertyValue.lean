import Mathlib.Logic.Basic

/-!
# Property values and the values `render` builds

`PropertyValue` is `resource.PropertyValue`, the type of a stack's decrypted configuration
(`config.Map.AsDecryptedPropertyMap`). `Rendered` is the Go `any` that
`configEnvInitCmd.render` returns and `renderEnvironmentDefinition` hands to the YAML encoder.

Go maps (`resource.PropertyMap`, `map[string]any`) are kept as their lookup `String → Option _`:
two maps with the same entries are equal, whatever the iteration order, and a key occurs once.

`PropertyValue.Every p` says that every node of a value satisfies `p`; the values configuration
is made of (`IsConfigValue`) and the side condition under which `render` is injective
(`NoFnSecretObject`) are both instances of it.
-/

namespace ConfigEnvInit

/-- The Go map literal `map[string]T{k: v}`. -/
def singletonMap (k : String) (v : α) : String → Option α :=
  fun k' => if k' = k then some v else none

@[simp] theorem singletonMap_self (k : String) (v : α) : singletonMap k v k = some v := by
  simp [singletonMap]

theorem singletonMap_of_ne {k k' : String} (v : α) (h : k' ≠ k) : singletonMap k v k' = none := by
  simp [singletonMap, h]

theorem singletonMap_inj {k : String} {v w : α} (h : singletonMap k v = singletonMap k w) :
    v = w := by
  simpa using congrFun h k

/-- `resource.PropertyValue`, by the kind of its `V`. The payloads of assets, archives, computed
and output values and resource references are left out: nothing modelled reads them. -/
inductive PropertyValue where
  | null
  | bool (b : Bool)
  | number (n : Float)
  | string (s : String)
  | array (elems : List PropertyValue)
  /-- A `PropertyMap`, by its lookup. -/
  | object (m : String → Option PropertyValue)
  | asset
  | archive
  | secret (element : PropertyValue)
  | computed
  | output
  | resourceReference

/-- `resource.PropertyMap`, by its lookup. -/
abbrev PropertyMap := String → Option PropertyValue

/-- What `render` returns: Go's `nil`, `bool`, `float64`, `string`, `[]any` and `map[string]any`. -/
inductive Rendered where
  | nil
  | bool (b : Bool)
  | number (n : Float)
  | string (s : String)
  | list (elems : List Rendered)
  | map (m : String → Option Rendered)

/-- The key of the ESC builtin that marks a secret. -/
def fnSecret : String := "fn::secret"

namespace PropertyValue

mutual
/-- `v.Every p`: `p` holds at every node of `v`, down through array elements, object values and
the elements of secrets. -/
def Every (p : PropertyValue → Prop) : PropertyValue → Prop
  | .array vs => p (.array vs) ∧ EveryArray p vs
  | .object m => p (.object m) ∧ ∀ k, EveryEntry p (m k)
  | .secret e => p (.secret e) ∧ Every p e
  | v => p v

/-- `Every` over the elements of an array. -/
def EveryArray (p : PropertyValue → Prop) : List PropertyValue → Prop
  | [] => True
  | v :: vs => Every p v ∧ EveryArray p vs

/-- `Every` over an object's value at one key, if there is one. -/
def EveryEntry (p : PropertyValue → Prop) : Option PropertyValue → Prop
  | none => True
  | some v => Every p v
end

/-- The node kinds a stack's configuration is made of: null, bool, number, string, array, object
and secret. -/
def IsConfigNode : PropertyValue → Prop
  | .asset | .archive | .computed | .output | .resourceReference => False
  | _ => True

/-- An object whose only key is `fn::secret`. -/
def IsFnSecretObject : PropertyValue → Prop
  | .object m => ∃ v, m = singletonMap fnSecret v
  | _ => False

/-- `v` is built only from the node kinds of stack configuration. -/
def IsConfigValue (v : PropertyValue) : Prop := v.Every IsConfigNode

/-- No object inside `v` is the single-key map `{"fn::secret": _}`. -/
def NoFnSecretObject (v : PropertyValue) : Prop := v.Every fun n => ¬ n.IsFnSecretObject

mutual
theorem Every.and {p q : PropertyValue → Prop} :
    ∀ {v : PropertyValue}, v.Every p → v.Every q → v.Every fun n => p n ∧ q n
  | .array _, hp, hq => ⟨⟨hp.1, hq.1⟩, EveryArray.and hp.2 hq.2⟩
  | .object _, hp, hq => ⟨⟨hp.1, hq.1⟩, fun k => EveryEntry.and (hp.2 k) (hq.2 k)⟩
  | .secret _, hp, hq => ⟨⟨hp.1, hq.1⟩, Every.and hp.2 hq.2⟩
  | .null, hp, hq | .bool _, hp, hq | .number _, hp, hq | .string _, hp, hq | .asset, hp, hq
  | .archive, hp, hq | .computed, hp, hq | .output, hp, hq | .resourceReference, hp, hq => ⟨hp, hq⟩

theorem EveryArray.and {p q : PropertyValue → Prop} :
    ∀ {vs : List PropertyValue}, EveryArray p vs → EveryArray q vs →
      EveryArray (fun n => p n ∧ q n) vs
  | [], _, _ => trivial
  | _ :: _, hp, hq => ⟨Every.and hp.1 hq.1, EveryArray.and hp.2 hq.2⟩

theorem EveryEntry.and {p q : PropertyValue → Prop} :
    ∀ {o : Option PropertyValue}, EveryEntry p o → EveryEntry q o →
      EveryEntry (fun n => p n ∧ q n) o
  | none, _, _ => trivial
  | some _, hp, hq => Every.and hp hq
end

end PropertyValue

end ConfigEnvInit
