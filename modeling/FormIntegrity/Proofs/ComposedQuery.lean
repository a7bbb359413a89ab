import FormIntegrity.Proofs.Submission
import FormIntegrity.Proofs.TextCodecs
import FormIntegrity.Proofs.InPlaceCalls

/-!
# Reading back a composed query

Composing the pairs of a query answers the query a link should carry: each decoded pair whose value
the page shows as itself keeps its raw text, and any other is written with its raw name and the
text the page shows, a placeholder (`Query.rewritten`). Reading such a query splits it into the
same segments, because no raw name, raw value or placeholder holds an `&`, and cuts each at its
first `=`, which the raw name does not hold; each segment then decodes to the pair's name and the
shown text (`Composer.link_composePairs`).

A link to a path without `?`, with that query and a token under a state parameter name, is read as
the submission of the shown texts with the token (`Composer.ofUri?_link`), as long as the name holds
no `&` or `=` and decodes to itself and the token's text is carried verbatim, which every token's
text is (`StateToken.verbatim_render`).
-/

namespace FormIntegrity

namespace Query

theorem splitAt_eq_splitOn (sep : Char) : ∀ xs : List Char, splitAt sep xs = xs.splitOn sep
  | [] => rfl
  | c :: rest => by
    rw [splitAt, List.splitOn_cons_eq_if_modifyHead, ← splitAt_eq_splitOn sep rest]
    by_cases same : c = sep
    · simp [same]
    · obtain ⟨first, more, split⟩ := List.exists_cons_of_ne_nil
        (splitAt_eq_splitOn sep rest ▸ List.splitOn_ne_nil sep rest)
      simp [same, split]

/-- An `&` ends every pair before it: the pairs of two queries joined by `&` are the pairs of the
first and then those of the second. -/
theorem pairs_append_amp (a b : String) : pairs (a ++ "&" ++ b) = pairs a ++ pairs b := by
  have joined : (a ++ "&" ++ b).toList = a.toList ++ '&' :: b.toList := by simp
  simp only [pairs, joined, splitAt_eq_splitOn, List.splitOn_append_cons_self, List.filter_append,
    List.map_append]

/-- A text without `&` is a single segment, a pair when it is not empty. -/
theorem pairs_of_segment {t : String} (apart : '&' ∉ t.toList) (nonempty : t ≠ "") :
    pairs t = [cutPair t.toList] := by
  have full : t.toList.isEmpty = false := by simpa using nonempty
  simp [pairs, splitAt_eq_splitOn, List.splitOn_eq_singleton apart, full]

/-- Pairs written with `&` between them read back one by one. -/
theorem pairs_intercalate : ∀ {segs : List String}, (∀ t ∈ segs, '&' ∉ t.toList ∧ t ≠ "") →
    pairs ("&".intercalate segs) = segs.map (cutPair ·.toList)
  | [], _ => rfl
  | [t], single => by simpa using pairs_of_segment (single t (by simp)).1 (single t (by simp)).2
  | t :: u :: more, each => by
    rw [String.intercalate_cons_cons, pairs_append_amp, pairs_of_segment (each t (by simp)).1
      (each t (by simp)).2, pairs_intercalate fun x mem => each x (List.mem_cons_of_mem t mem)]
    rfl

/-- Splitting at the first separator of a list that has one after a run without it. -/
theorem span_append_sep (sep : Char) {xs : List Char} (apart : sep ∉ xs) (ys : List Char) :
    (xs ++ sep :: ys).span (· ≠ sep) = (xs, sep :: ys) := by
  have before : ∀ a ∈ xs, decide (a ≠ sep) = true := fun a mem => by
    simpa using fun same : a = sep => apart (same ▸ mem)
  rw [List.span_eq_takeWhile_dropWhile, List.takeWhile_append_of_pos before,
    List.dropWhile_append_of_pos before]
  simp

/-- A segment is cut at its first `=`: a name without `=` is read back with the value after it. -/
theorem cutPair_name (name value : String) (noEquals : '=' ∉ name.toList) :
    cutPair (name ++ "=" ++ value).toList = (name, value) := by
  have split := span_append_sep '=' noEquals value.toList
  have joined : (name ++ "=" ++ value).toList = name.toList ++ '=' :: value.toList := by simp
  rw [cutPair, joined, split]
  simp

/-- No segment holds the separator it was split at. -/
theorem not_mem_of_mem_splitAt {sep : Char} :
    ∀ {xs seg : List Char}, seg ∈ splitAt sep xs → sep ∉ seg
  | [], seg, mem => by
    simp only [splitAt, List.mem_singleton] at mem
    simp [mem]
  | c :: rest, seg, mem => by
    rw [splitAt] at mem
    by_cases split : c = sep
    · rw [if_pos split] at mem
      rcases List.mem_cons.mp mem with rfl | later
      · simp
      · exact not_mem_of_mem_splitAt later
    · rw [if_neg split] at mem
      split at mem
      · rename_i first more segments
        rcases List.mem_cons.mp mem with rfl | later
        · have firstApart := not_mem_of_mem_splitAt (segments ▸ List.mem_cons_self : first ∈ splitAt sep rest)
          simp [Ne.symm split, firstApart]
        · exact not_mem_of_mem_splitAt (segments ▸ List.mem_cons_of_mem first later : seg ∈ splitAt sep rest)
      · simp only [List.mem_singleton] at mem
        simp [mem, Ne.symm split]

/-- Both parts of a cut segment come from the segment, and the name holds no `=`. -/
theorem cutPair_within (seg : List Char) :
    (∀ c ∈ (cutPair seg).1.toList, c ≠ '=' ∧ c ∈ seg) ∧ ∀ c ∈ (cutPair seg).2.toList, c ∈ seg := by
  have name : ∀ c ∈ seg.takeWhile (· ≠ '='), c ≠ '=' ∧ c ∈ seg := fun c mem =>
    ⟨by simpa using List.all_eq_true.mp List.all_takeWhile c mem, (List.takeWhile_sublist _).subset mem⟩
  unfold cutPair
  rw [List.span_eq_takeWhile_dropWhile]
  split
  · rename_i taken rest head value same
    simp only [Prod.mk.injEq] at same
    obtain ⟨rfl, dropped⟩ := same
    refine ⟨by simpa using name, fun c mem => ?_⟩
    have inRest : c ∈ seg.dropWhile (· ≠ '=') := by
      rw [dropped]
      exact List.mem_cons_of_mem head (by simpa using mem)
    exact (List.dropWhile_sublist _).subset inRest
  · rename_i taken rest same
    simp only [Prod.mk.injEq] at same
    obtain ⟨rfl, -⟩ := same
    exact ⟨by simpa using name, by simp⟩

/-- The raw name of a pair holds no `&` and no `=`, and its raw value no `&`. -/
theorem mem_pairs {query : String} {pair : String × String} (mem : pair ∈ pairs query) :
    '&' ∉ pair.1.toList ∧ '=' ∉ pair.1.toList ∧ '&' ∉ pair.2.toList := by
  obtain ⟨seg, kept, rfl⟩ := List.mem_map.mp mem
  have apart := not_mem_of_mem_splitAt (List.mem_filter.mp kept).1
  obtain ⟨name, value⟩ := cutPair_within seg
  exact ⟨fun inside => apart (name _ inside).2, fun inside => (name _ inside).1 rfl,
    fun inside => apart (value _ inside)⟩

/-- A text a query carries as a value unchanged: it holds no `&`, which would end its pair, and
no `+` or `%`, which decoding rewrites. -/
def Verbatim (text : String) : Prop :=
  ∀ c ∈ text.toList, c ≠ '&' ∧ c ≠ '+' ∧ c ≠ '%'

instance (text : String) : Decidable (Verbatim text) :=
  inferInstanceAs (Decidable (∀ c ∈ text.toList, _))

theorem Verbatim.decode {text : String} (verbatim : Verbatim text) :
    decodeComponent? text = some text :=
  decodeComponent?_of_plain fun c mem => (verbatim c mem).2

theorem Verbatim.apart {text : String} (verbatim : Verbatim text) : '&' ∉ text.toList :=
  fun mem => (verbatim '&' mem).1 rfl

/-- A digit is carried verbatim. -/
theorem verbatim_of_isDigit {c : Char} (digit : c.isDigit = true) : c ≠ '&' ∧ c ≠ '+' ∧ c ≠ '%' := by
  refine ⟨?_, ?_, ?_⟩ <;> (rintro rfl; exact absurd digit (by decide))

theorem verbatim_placeholder (i : Nat) : Verbatim (Placeholder.write i) := by
  intro c mem
  rw [Placeholder.toList_write] at mem
  rcases List.mem_cons.mp mem with rfl | digit
  · decide
  · exact verbatim_of_isDigit (StateToken.isDigit_of_mem_toDigits digit)

end Query

namespace Request

theorem addPairs_append (r : Request) (first more : List (String × String)) :
    r.addPairs (first ++ more) = (r.addPairs first).bind (·.addPairs more) := by
  induction first generalizing r with
  | nil => rfl
  | cons pair rest ih =>
    obtain ⟨n, v⟩ := pair
    simp only [List.cons_append, addPairs]
    cases Query.decodeComponent? n <;> cases Query.decodeComponent? v <;> simp [ih]

theorem addPairs_cons_decoded {r : Request} {rawName rawValue name value : String}
    (nameIs : Query.decodeComponent? rawName = some name)
    (valueIs : Query.decodeComponent? rawValue = some value) (rest : List (String × String)) :
    r.addPairs ((rawName, rawValue) :: rest) = (r.add name value).addPairs rest := by
  simp [addPairs, nameIs, valueIs]

end Request

namespace Query

/-- The target before the first `?` is the path. -/
theorem splitTarget_append {path : String} (noQuery : '?' ∉ path.toList) (query : String) :
    splitTarget (path ++ "?" ++ query) = (path, query) := by
  have joined : (path ++ "?" ++ query).toList = path.toList ++ '?' :: query.toList := by simp
  have split := span_append_sep '?' noQuery query.toList
  rw [splitTarget, joined, split]
  simp

end Query

namespace Query

theorem verbatim_append {a b : String} : Verbatim (a ++ b) ↔ Verbatim a ∧ Verbatim b := by
  simp only [Verbatim, String.toList_append, List.mem_append]
  exact ⟨fun both => ⟨fun c mem => both c (.inl mem), fun c mem => both c (.inr mem)⟩,
    fun ⟨first, second⟩ c mem => mem.elim (first c) (second c)⟩

theorem verbatim_ofList {cs : List Char} : Verbatim (String.ofList cs) ↔ ∀ c ∈ cs, c ≠ '&' ∧ c ≠ '+' ∧ c ≠ '%' := by
  simp [Verbatim]

end Query

namespace Base64Url

/-- Every symbol is carried verbatim: past the table, the last symbol `_` stands. -/
theorem verbatim_symbol (n : Nat) : symbol n ≠ '&' ∧ symbol n ≠ '+' ∧ symbol n ≠ '%' := by
  by_cases small : n < 64
  · have table : ∀ k < 64, symbol k ≠ '&' ∧ symbol k ≠ '+' ∧ symbol k ≠ '%' := by decide
    exact table n small
  · have last : symbol n = '_' := by
      simp only [symbol]
      split_ifs <;> first | rfl | omega
    rw [last]
    decide

theorem mem_encodeList {bytes : List UInt8} {c : Char} (mem : c ∈ encodeList bytes) :
    ∃ n, c = symbol n := by
  fun_induction encodeList bytes <;> simp at mem <;> grind

end Base64Url

namespace StateToken

/-- The text of a token, its nonce a run of hexadecimal digits if it has one, is carried verbatim. -/
theorem verbatim_render {t : StateToken}
    (valid : ∀ id index nonce, t.body = .memory id index nonce → validNonce nonce.toList = true) :
    Query.Verbatim t.render := by
  have digits : ∀ n : Nat, Query.Verbatim (Decimal.write n) := fun n =>
    Query.verbatim_ofList.mpr fun c mem => Query.verbatim_of_isDigit (isDigit_of_mem_toDigits mem)
  have body : Query.Verbatim (bodyText t.body) := by
    cases shape : t.body with
    | memory id index nonce =>
      have hex := valid id index nonce shape
      simp only [validNonce, Bool.and_eq_true, List.all_eq_true] at hex
      have nonceVerbatim : Query.Verbatim nonce := fun c mem => by
        refine ⟨?_, ?_, ?_⟩ <;> (rintro rfl; exact absurd (hex.2 _ mem) (by decide))
      have dash : Query.Verbatim "-" := by simp [Query.Verbatim]
      simp only [bodyText, Query.verbatim_append]
      exact ⟨⟨⟨⟨digits _, dash⟩, digits _⟩, dash⟩, nonceVerbatim⟩
    | cipher payload =>
      simp only [bodyText, Base64Url.encode, Query.verbatim_append, Query.verbatim_ofList]
      refine ⟨by simp [Query.Verbatim], fun c mem => ?_⟩
      obtain ⟨n, rfl⟩ := Base64Url.mem_encodeList mem
      exact Base64Url.verbatim_symbol n
  unfold render
  split
  · rename_i p named
    refine Query.verbatim_append.mpr ⟨Query.verbatim_ofList.mpr ?_, body⟩
    cases scope : t.scope <;> simp [scope, Scope.tokenPrefix?] at named <;> subst named <;> simp
  · exact body

end StateToken

namespace Query

/-- A raw pair of a query with the name and value it decodes to, as composing reads it: the raw
name holds no `&` or `=` and the raw value no `&`. -/
structure DecodedPair (rawName rawValue name value : String) : Prop where
  nameApart : '&' ∉ rawName.toList
  nameUncut : '=' ∉ rawName.toList
  valueApart : '&' ∉ rawValue.toList
  name : decodeComponent? rawName = some name
  value : decodeComponent? rawValue = some value

variable {rawName rawValue name value shown : String}

/-- The text composing writes for a decoded pair whose value is shown as `shown`: the raw pair when
the page shows the value itself, the raw name with the shown text otherwise. -/
def rewritten (rawName rawValue value shown : String) : String :=
  if shown == value then rawName ++ "=" ++ rawValue else rawName ++ "=" ++ shown

theorem DecodedPair.segment (decoded : DecodedPair rawName rawValue name value)
    (shownIs : shown = value ∨ Verbatim shown) :
    '&' ∉ (rewritten rawName rawValue value shown).toList ∧ rewritten rawName rawValue value shown ≠ "" := by
  have nonempty : ∀ x, rawName ++ "=" ++ x ≠ "" := fun x same => by
    simpa using congrArg String.length same
  unfold rewritten
  split
  · simp [decoded.nameApart, decoded.valueApart, nonempty]
  · rename_i differs
    have verbatim := shownIs.resolve_left (by simpa using differs)
    simp [decoded.nameApart, verbatim.apart, nonempty]

/-- A rewritten pair reads back as the decoded name with the shown text. -/
theorem DecodedPair.addPairs_rewritten (decoded : DecodedPair rawName rawValue name value)
    (shownIs : shown = value ∨ Verbatim shown) (r : Request) (rest : List (String × String)) :
    r.addPairs (cutPair (rewritten rawName rawValue value shown).toList :: rest) =
      (r.add name shown).addPairs rest := by
  unfold rewritten
  split
  · rename_i same
    rw [cutPair_name _ _ decoded.nameUncut, Request.addPairs_cons_decoded decoded.name decoded.value,
      eq_of_beq same]
  · rename_i differs
    have verbatim := shownIs.resolve_left (by simpa using differs)
    rw [cutPair_name _ _ decoded.nameUncut, Request.addPairs_cons_decoded decoded.name verbatim.decode]

end Query

/-- A list mapped in `Except` to a result holds, for each item of the result, an item it came from. -/
theorem List.exists_of_mapM_ok {α β ε : Type} {f : α → Except ε β} :
    ∀ {l : List α} {results : List β}, l.mapM f = .ok results → ∀ b ∈ results, ∃ a ∈ l, f a = .ok b
  | [], results, ok, b, mem => by
    cases ok
    simp at mem
  | a :: rest, results, ok, b, mem => by
    rw [List.mapM_cons] at ok
    obtain ⟨first, firstOk, more⟩ := Except.bind_eq_ok.mp ok
    obtain ⟨others, othersOk, done⟩ := Except.bind_eq_ok.mp more
    cases done
    rcases List.mem_cons.mp mem with rfl | later
    · exact ⟨a, List.mem_cons_self, firstOk⟩
    · obtain ⟨a', member, mapped⟩ := List.exists_of_mapM_ok othersOk b later
      exact ⟨a', List.mem_cons_of_mem a member, mapped⟩

namespace Composer

variable {c c' : Composer} {confidential : Bool} {name value shown : String} {editable : Bool}
variable {dataType : Option DataType}

/-- A page shows a composed value as itself or as a placeholder. -/
theorem compose_shown (ok : c.compose confidential name value editable dataType = .ok (shown, c')) :
    shown = value ∨ Query.Verbatim shown := by
  obtain ⟨st, -, -, rfl⟩ := compose_ok ok
  split
  · exact .inr (Query.verbatim_placeholder _)
  · exact .inl rfl

/-- Composing decodes each raw pair of the query to its name and value. -/
theorem decodedPair_of_mapM {query : String} {decoded : List (String × String × String × String)}
    (ok : (Query.pairs query).mapM decodePair = Except.ok decoded) :
    ∀ d ∈ decoded, Query.DecodedPair d.1 d.2.1 d.2.2.1 d.2.2.2 := by
  intro d mem
  obtain ⟨⟨rawName, rawValue⟩, member, decodedOk⟩ := List.exists_of_mapM_ok ok d mem
  obtain ⟨nameApart, nameUncut, valueApart⟩ := Query.mem_pairs member
  unfold decodePair at decodedOk
  split at decodedOk
  · rename_i n v nameIs valueIs
    cases decodedOk
    exact ⟨nameApart, nameUncut, valueApart, nameIs, valueIs⟩
  · cases decodedOk

end Composer

namespace Composer

variable {confidential : Bool}

/-- Composing decoded pairs writes, for each, a segment that the query splits off again and that
reads back as the pair's name with the text the page shows for its value. -/
theorem link_composePairs :
    ∀ {decoded : List (String × String × String × String)} {c c₁ c₂ : Composer} {texts : List String}
      {records : List (String × String × String)},
      (∀ d ∈ decoded, Query.DecodedPair d.1 d.2.1 d.2.2.1 d.2.2.2) →
      c.composePairs confidential decoded = .ok (texts, c₁) →
      c.pairsShown confidential decoded = .ok (records, c₂) →
      (∀ t ∈ texts, '&' ∉ t.toList ∧ t ≠ "") ∧
        ∀ r : Request, r.addPairs (texts.map (Query.cutPair ·.toList)) = some (Recordings.addShown r records)
  | [], c, c₁, c₂, texts, records, _, composed, shown => by
    simp only [composePairs, Except.pure_eq_ok, Prod.mk.injEq] at composed
    simp only [pairsShown, Except.pure_eq_ok, Prod.mk.injEq] at shown
    obtain ⟨rfl, -⟩ := composed
    obtain ⟨rfl, -⟩ := shown
    exact ⟨by simp, fun r => rfl⟩
  | (rawName, rawValue, name, value) :: rest, c, c₁, c₂, texts, records, each, composed, shown => by
    simp only [composePairs, Except.bind_eq_ok] at composed
    simp only [pairsShown, Except.bind_eq_ok] at shown
    obtain ⟨⟨sh, c₀⟩, first, ⟨more, c₃⟩, restComposed, done⟩ := composed
    obtain ⟨⟨sh', c₀'⟩, first', ⟨moreRecords, c₄⟩, restShown, finished⟩ := shown
    -- both run the same composition of the first pair
    rw [first] at first'
    obtain ⟨rfl, rfl⟩ := Prod.mk.inj (Except.ok.inj first')
    simp only [Except.pure_eq_ok, Prod.mk.injEq] at done finished
    obtain ⟨rfl, -⟩ := done
    obtain ⟨rfl, -⟩ := finished
    have decoded := each _ List.mem_cons_self
    have shownIs := compose_shown first
    obtain ⟨segments, readBack⟩ :=
      link_composePairs (fun d mem => each d (List.mem_cons_of_mem _ mem)) restComposed restShown
    refine ⟨?_, fun r => ?_⟩
    · rintro t (_ | ⟨_, later⟩)
      · exact decoded.segment shownIs
      · exact segments t later
    · have readFirst := decoded.addPairs_rewritten shownIs r (more.map (Query.cutPair ·.toList))
      unfold Query.rewritten at readFirst
      simpa [Recordings.addShown, readBack] using readFirst

/-- **A link with composed query parameters reads back as a submission.** When composing the pairs
of a query answers `query'`, the link to a path without `?` with `query'` and a state parameter
name and token, both carried verbatim, is read as the submission, to that path, of the texts
shown for the composed values, with the token under the name. -/
theorem ofUri?_link {c c' c'' : Composer} {query query' encoding : String}
    {records : List (String × String × String)}
    (linked : c.composeParams confidential query encoding = .ok (query', c'))
    (shown : c.paramsShown confidential query encoding = .ok (records, c''))
    {path name token : String} (noQuery : '?' ∉ path.toList) (nameApart : '&' ∉ name.toList)
    (nameUncut : '=' ∉ name.toList) (literal : Query.decodeComponent? name = some name)
    (verbatim : Query.Verbatim token) (method : Method) :
    Request.ofUri? method (path ++ "?" ++ query' ++ "&" ++ name ++ "=" ++ token) =
      some (Recordings.submission method path records name token) := by
  rw [composeParams_eq] at linked
  rw [paramsShown_eq] at shown
  split at linked
  · cases linked
  · split at linked
    · cases linked
    · rename_i utf8 opened
      simp only [utf8, opened] at shown
      obtain ⟨decoded, decodedOk, composed⟩ := Except.bind_eq_ok.mp linked
      obtain ⟨decoded', decodedOk', recorded⟩ := Except.bind_eq_ok.mp shown
      cases decodedOk.symm.trans decodedOk'
      obtain ⟨⟨texts, c₁⟩, composedOk, rewritten⟩ := Except.map_eq_ok.mp composed
      simp only [Prod.mk.injEq] at rewritten
      obtain ⟨rfl, -⟩ := rewritten
      obtain ⟨segments, readBack⟩ :=
        link_composePairs (decodedPair_of_mapM decodedOk) composedOk recorded
      have tokenPair : Query.pairs (name ++ "=" ++ token) = [(name, token)] := by
        rw [Query.pairs_of_segment (by simp [nameApart, verbatim.apart]) (by
          intro empty
          simpa using congrArg String.length empty), Query.cutPair_name _ _ nameUncut]
      have uri : path ++ "?" ++ "&".intercalate texts ++ "&" ++ name ++ "=" ++ token =
          path ++ "?" ++ ("&".intercalate texts ++ "&" ++ (name ++ "=" ++ token)) := by
        simp only [String.append_assoc]
      rw [uri, Request.ofUri?, Query.splitTarget_append noQuery]
      dsimp only
      rw [Query.pairs_append_amp, Query.pairs_intercalate segments, tokenPair, Request.addPairs_append,
        readBack]
      simp [Request.addPairs, literal, verbatim.decode, Recordings.submission]

end Composer

end FormIntegrity
