import FormIntegrity.Sealed
import FormIntegrity.Proofs.CipherInverse
import FormIntegrity.Proofs.TextCodecs
import FormIntegrity.Proofs.JsonRoundTrip
import FormIntegrity.Proofs.NameMaps
import FormIntegrity.Proofs.Resolution
import FormIntegrity.Proofs.TokenText

/-!
# Sealed tokens open to their state

A cipher token carries its state in four layers: the sealed document is written as compact JSON,
the text is encoded in UTF-8, the bytes are sealed under the key of the state's scope, and the
payload is written in base64url after the scope's prefix. Each layer is undone by its reader, so a
token sealed for a state opens again to that state.

The document layer is the one with conditions: the record readers find each field by its name, the
parameter map is read back by inserting its members in turn, and the position is read as a count. A
state whose position is a count reads back as itself (`asState?_stateValue`), its parameters being
written in the ascending order of names that inserting them rebuilds. Resolving the
token's text in a guard and a session whose key for the state's scope is the sealing key then
answers the state (`Guard.resolve_toToken`).
-/

namespace FormIntegrity

/-- A list mapped in `Option` by a function that gives a value for every item. -/
theorem List.mapM_option_some {α β : Type} {f : α → Option β} {g : α → β} :
    ∀ {l : List α}, (∀ a ∈ l, f a = some (g a)) → l.mapM f = some (l.map g)
  | [], _ => rfl
  | a :: rest, all => by
    rw [List.mapM_cons, all a List.mem_cons_self,
      List.mapM_option_some fun b member => all b (List.mem_cons_of_mem a member)]
    rfl

namespace Json

/-- A map written as an object reads back as itself. -/
theorem asMap?_obj {α : Type} {read : Value → Option α} {write : α → Value}
    (inverse : ∀ a, read (write a) = some a) (m : NameMap α) :
    (Value.obj (m.entries.map fun e => (e.1, write e.2))).asMap? read = some m := by
  have readAll : (m.entries.map fun e => (e.1, write e.2)).mapM
      (fun (kv : String × Value) => (read kv.2).map (kv.1, ·)) = some m.entries := by
    rw [List.mapM_map, List.mapM_option_some (g := id) fun e _ => by simp [inverse], List.map_id]
  simp only [Value.asMap?]
  -- the reader takes each member apart by a pattern; up to eta that is the projection used above
  erw [readAll]
  -- the entries come in ascending order, so inserting them in turn rebuilds the map
  exact congrArg some (NameMap.ofList_self m)

/-- In an object whose member names are apart, a member's name finds its value. -/
theorem member?_of_mem {members : List (String × Value)} (apart : (members.map (·.1)).Nodup)
    {k : String} {v : Value} (mem : (k, v) ∈ members) : member? members k = some (some v) := by
  have only : members.filter (·.1 == k) = [(k, v)] := by
    induction members with
    | nil => simp at mem
    | cons head rest ih =>
      obtain ⟨fresh, apartRest⟩ := List.nodup_cons.mp apart
      rcases List.mem_cons.mp mem with rfl | later
      · have none : rest.filter (·.1 == k) = [] :=
          List.filter_eq_nil_iff.mpr fun e member same =>
            fresh (List.mem_map.mpr ⟨e, member, by simpa using same⟩)
        simp [none]
      · have other : head.1 ≠ k := fun same =>
          fresh (List.mem_map.mpr ⟨(k, v), later, same.symm⟩)
        simp [other, ih apartRest later]
  simp [member?, only]

/-- An object whose member names are apart reads as the record of those names, each field its
member's value. -/
theorem fields?_obj {members : List (String × Value)} {names : List String}
    (named : members.map (·.1) = names) (apart : names.Nodup) :
    (Value.obj members).fields? names = some ⟨members.map (some ·.2), false⟩ := by
  subst named
  have all : (members.map (·.1)).mapM (member? members) = some (members.map (some ·.2)) := by
    rw [List.mapM_map]
    exact List.mapM_option_some fun e member => member?_of_mem apart member
  simp [Value.fields?, all]

theorem plainItems_map_str (texts : List String) : Value.PlainItems (texts.map .str) := by
  induction texts with
  | nil => simp [Value.PlainItems]
  | cons t rest ih => simpa [Value.PlainItems, Value.Plain] using ih

theorem asList?_map_str (texts : List String) :
    (Value.arr (texts.map .str)).asList? Value.asString? = some texts := by
  rw [Value.asList?, List.mapM_map]
  simpa using List.mapM_option_some (f := Value.asString? ∘ Value.str) (g := id) fun _ _ => rfl

theorem asScope?_scopeName (σ : Scope) :
    (Value.str (SealedState.scopeName σ)).asScope? = some σ := by
  cases σ <;> rfl

theorem asMethod?_methodName (m : Method) :
    (Value.str (SealedState.methodName m)).asMethod? = some m := by
  cases m <;> rfl

theorem asDataType?_name (d : DataType) : (Value.str d.name).asDataType? = some d := by
  cases d <;> rfl

theorem asCount?_of_lt {n : Nat} (small : n < 2 ^ 64) :
    (Value.int n).asCount? = some n.toUInt64 := by
  have within : 0 ≤ (n : Int) ∧ (n : Int) < Int.ofNat (Nat.pow 2 64) :=
    ⟨Int.natCast_nonneg n, Int.ofNat_lt.mpr small⟩
  simp only [Value.asCount?, if_pos within, Int.toNat_natCast]

theorem asCount?_toNat (id : UInt64) : (Value.int id.toNat).asCount? = some id := by
  rw [asCount?_of_lt id.toNat_lt, Nat.toUInt64, UInt64.ofNat_toNat]

end Json

namespace SealedState

open Json

theorem plain_parameterValue (p : Parameter) : (parameterValue p).Plain := by
  cases dataType : p.dataType <;>
    simp [parameterValue, dataType, Value.Plain, Value.PlainMembers, plainItems_map_str]

theorem plain_stateValue (st : State) : (stateValue st).Plain := by
  have members : ∀ entries : List (String × Parameter),
      Value.PlainMembers (entries.map fun e => (e.1, parameterValue e.2)) := by
    intro entries
    induction entries with
    | nil => simp [Value.PlainMembers]
    | cons e rest ih => exact ⟨plain_parameterValue e.2, ih⟩
  simpa [stateValue, Value.Plain, Value.PlainMembers] using members st.parameters.entries

theorem plain_toValue (s : SealedState) : s.toValue.Plain := by
  simpa [toValue, Value.Plain, Value.PlainMembers] using plain_stateValue s.state

theorem asParameter?_parameterValue (p : Parameter) : (parameterValue p).asParameter? = some p := by
  obtain ⟨name, values, editable, required, dataType⟩ := p
  cases dataType with
  | none =>
    simp [parameterValue, Value.asParameter?, Value.fields?, member?, Fields.required,
      Fields.optional, Fields.get, Value.asString?, asList?_map_str, Value.asBool?]
  | some d =>
    simp [parameterValue, Value.asParameter?, Value.fields?, member?, Fields.required,
      Fields.optional, Fields.get, Value.asString?, asList?_map_str, Value.asBool?, asDataType?_name]

/-- **A state's document reads back as the state**, when its position is a count. -/
theorem asState?_stateValue {st : State} (small : st.index < 2 ^ 64) :
    (stateValue st).asState? = some st := by
  obtain ⟨index, scope, method, action, params⟩ := st
  dsimp only at small
  have parameters : (Value.obj (params.entries.map fun e => (e.1, parameterValue e.2))).asMap?
      Value.asParameter? = some params := asMap?_obj asParameter?_parameterValue params
  unfold stateValue Value.asState?
  rw [fields?_obj (by rfl) (by decide)]
  -- with proofs by definition the kernel would run the count check on the symbolic position, one
  -- unit at a time: every step is rewritten by its lemma instead
  simp -implicitDefEqProofs only [Fields.required, Fields.get, Option.getD_some, Option.bind_some,
    Option.bind_eq_bind, parameters, asScope?_scopeName, asMethod?_methodName, Value.asString?,
    List.map_cons, List.map_nil, List.getElem?_cons_zero, List.getElem?_cons_succ,
    asCount?_of_lt small, Nat.toUInt64_eq, UInt64.toNat_ofNat_of_lt' small]
  rfl

theorem asSealedState?_toValue {s : SealedState} (small : s.state.index < 2 ^ 64) :
    s.toValue.asSealedState? = some s := by
  obtain ⟨scope, pageId, st⟩ := s
  unfold toValue Value.asSealedState?
  rw [fields?_obj (by rfl) (by decide)]
  simp -implicitDefEqProofs only [Fields.required, Fields.get, Option.getD_some, Option.bind_some,
    Option.bind_eq_bind, List.map_cons, List.map_nil, List.getElem?_cons_zero,
    List.getElem?_cons_succ, asScope?_scopeName, asCount?_toNat, asState?_stateValue small]
  rfl

theorem ofBytes?_encode {s : SealedState} (small : s.state.index < 2 ^ 64) :
    ofBytes? (Utf8.encode s.toText) = some s := by
  simp [ofBytes?, Utf8.decode?_encode, toText, read?_write _ (plain_toValue s),
    asSealedState?_toValue small]

/-- A sealed state opens again under the key it was sealed with. -/
theorem ofPayload_toToken {s : SealedState} (small : s.state.index < 2 ^ 64) (key : CipherKey) {nonce : List UInt8}
    (long : nonce.length = Cipher.nonceLength) :
    ofPayload key (Cipher.encrypt key nonce (Utf8.encode s.toText)) = .ok s := by
  simp [ofPayload, Cipher.decrypt_encrypt key long, bind, Except.bind, ofBytes?_encode small,
    pure, Except.pure]

end SealedState

namespace Guard

variable {g : Guard} {s : Session} {st : State} {id : UInt64} {nonce : List UInt8}

/-- A token sealed for a state under the key a guard and a session open its scope with names the
state there. -/
theorem named_toToken (small : st.index < 2 ^ 64)
    (long : nonce.length = Cipher.nonceLength) :
    g.named s ((SealedState.mk st.scope id st).toToken (g.keyFor s st.scope) nonce) = some st := by
  simp [named, SealedState.toToken,
    SealedState.ofPayload_toToken (s := ⟨st.scope, id, st⟩) small _ long, Option.filter]

/-- **A sealed token's text resolves to its state** in a guard and a session that open the state's
scope with the key it was sealed under. -/
theorem resolve_toToken (small : st.index < 2 ^ 64)
    (long : nonce.length = Cipher.nonceLength) :
    g.resolve s ((SealedState.mk st.scope id st).toToken (g.keyFor s st.scope) nonce).render =
      .ok st := by
  have nonempty : Cipher.encrypt (g.keyFor s st.scope) nonce
      (Utf8.encode (SealedState.mk st.scope id st).toText) ≠ [] := by
    have : nonce ≠ [] := List.ne_nil_of_length_pos (by rw [long]; decide)
    simp [Cipher.encrypt, this]
  have named : g.named s ((SealedState.mk st.scope id st).toToken (g.keyFor s st.scope) nonce) =
      some st := named_toToken small long
  rw [SealedState.toToken] at named ⊢
  rw [resolve_eq, StateToken.parse_render_cipher _ nonempty]
  simp [named]

end Guard

end FormIntegrity
