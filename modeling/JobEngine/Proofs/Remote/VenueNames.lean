import JobEngine.Proofs.Engine.Invocation

/-!
# Venue names route unambiguously

A venue forwards operations to peer venues listed as `name=url` pairs, and an operation of a
peer is referred to as `name:operation`. Two cuts of a text must agree for this to work: a pair
is cut at its first `=`, and a reference at its first `:`. A name that holds no `:` is what makes
them agree, so that `name:o` is cut back into `name` and `o` whatever `o` holds.

## Main Definitions

* `NamesVenue` — when a pair is well formed, and the name and url it gives.
* `World.Dispatched` — an invocation handed to a given adapter with a given operation.
* `Routes` — what a reference `name:o` does.

## Main Statements

* `cut_cases` — where a text is cut.
* `parseVenues_eq_ok_iff` — reading pairs succeeds exactly on well-formed pairs with distinct
  names, from `addVenuePair_eq_ok_iff` for one pair and `foldlM_addVenuePair` for a list.
* `NamesVenue.url_ne_empty` — the url of a well-formed pair is not empty.
* `World.invoke_dispatched` — `name:o` goes to the adapter registered as `name`, with `o`.
* `venue_names_route` — the two together.

## Design Notes

`NamesVenue` says where the first `=` is by a decomposition of the trimmed pair, `raw ++ '=' ::
rest` with no `=` in `raw`, and not through the cut the reader makes; `split_unique` makes that
decomposition unique, so a pair names one venue.
-/

namespace JobEngine

/-! ## Cutting a text at a character -/

theorem span_split {sep : Char} {before after : List Char} (absent : sep ∉ before) :
    (before ++ sep :: after).span (· != sep) = (before, sep :: after) := by
  rw [List.span_eq_takeWhile_dropWhile]
  induction before with
  | nil => simp
  | cons c before ih =>
    have apart : c ≠ sep := fun same => absent (same ▸ List.mem_cons_self)
    have rest := ih fun mem => absent (List.mem_cons_of_mem _ mem)
    simp only [Prod.mk.injEq] at rest
    simp [apart, rest]

/-- A text holding `sep` is cut around its first occurrence. -/
theorem cut_of_split {s : String} {sep : Char} {before after : List Char}
    (split : s.toList = before ++ sep :: after) (absent : sep ∉ before) :
    cut s sep = (String.ofList before, String.ofList after, true) := by
  simp only [cut, split, span_split absent]

theorem cut_of_not_mem {s : String} {sep : Char} (absent : sep ∉ s.toList) :
    cut s sep = (s, "", false) := by
  have free : ∀ c ∈ s.toList, (c != sep) = true := by
    intro c mem
    simp only [bne_iff_ne, ne_eq]
    rintro rfl
    exact absent mem
  have kept : s.toList.span (· != sep) = (s.toList, []) := by
    rw [List.span_eq_takeWhile_dropWhile, List.takeWhile_eq_self_iff.mpr free,
      List.dropWhile_eq_nil_iff.mpr free]
  simp only [cut, kept]

/-- **Where a text is cut**: it has no `sep`, or it is `before`, `sep`, `after` with no `sep` in
`before`. -/
theorem cut_cases (s : String) (sep : Char) :
    (sep ∉ s.toList ∧ cut s sep = (s, "", false)) ∨
      ∃ before after, s.toList = before ++ sep :: after ∧ sep ∉ before ∧
        cut s sep = (String.ofList before, String.ofList after, true) := by
  -- the first occurrence is where the text stops being free of `sep`
  rcases rest : s.toList.dropWhile (· != sep) with _ | ⟨x, after⟩
  · have absent : sep ∉ s.toList := fun mem => by
      simpa using List.dropWhile_eq_nil_iff.mp rest sep mem
    exact .inl ⟨absent, cut_of_not_mem absent⟩
  · have stops : (x != sep) = false := by
      simpa [rest] using List.head_dropWhile_not (· != sep) (l := s.toList) (by simp [rest])
    have same : x = sep := by simpa using stops
    subst same
    have split : s.toList = s.toList.takeWhile (· != x) ++ x :: after := by
      rw [← rest, List.takeWhile_append_dropWhile]
    have absent : x ∉ s.toList.takeWhile (· != x) := fun mem => by
      simpa using List.mem_takeWhile_imp mem
    exact .inr ⟨_, after, split, absent, cut_of_split split absent⟩

/-! ## References to a named adapter -/

/-- A reference `n:o` with no colon in `n` is literal. -/
theorem isLiteralRef_named (n o : String) : isLiteralRef (n ++ ":" ++ o) = true := by
  simp [isLiteralRef, String.contains_char_eq, String.toList_append]

/-- **A reference `n:o` splits into `n` and `o` when `n` holds no colon**, whatever `o` holds. -/
theorem splitRef_named {n : String} (plain : ':' ∉ n.toList) (o : String) :
    splitRef (n ++ ":" ++ o) = (n, o) := by
  have split : (n ++ ":" ++ o).toList = n.toList ++ ':' :: o.toList := by
    simp [String.toList_append]
  simp [splitRef, cut_of_split split plain]

/-! ## Trimmed texts -/

namespace Text

theorem trimBlank_eq_empty_iff (s : String) : trimBlank s = "" ↔ ∀ c ∈ s.toList, isBlank c := by
  rw [← String.toList_inj, trimBlank, String.toList_ofList, String.toList_empty,
    List.reverse_eq_nil_iff, List.dropWhile_eq_nil_iff]
  simp only [List.mem_reverse]
  constructor
  · intro blank
    -- what is left after the leading blanks starts with no blank, so nothing is left
    have gone : s.toList.dropWhile isBlank = [] := by
      by_contra kept
      have first := List.head_dropWhile_not isBlank kept
      rw [blank _ (List.head_mem kept)] at first
      exact Bool.noConfusion first
    exact List.dropWhile_eq_nil_iff.mp gone
  · intro blank c mem
    exact blank c ((List.dropWhile_sublist _).subset mem)

/-- The last character of a trimmed text is no blank. -/
theorem getLast_trimBlank (s : String) (h : (trimBlank s).toList ≠ []) :
    isBlank ((trimBlank s).toList.getLast h) = false := by
  simp only [trimBlank, String.toList_ofList] at h ⊢
  rw [List.getLast_reverse]
  exact List.head_dropWhile_not isBlank _

end Text

/-! ## Reading venue pairs -/

/-- A text is cut at its first `sep` in one way only. -/
theorem split_unique {l before after before' after' : List Char} {sep : Char}
    (split : l = before ++ sep :: after) (split' : l = before' ++ sep :: after')
    (absent : sep ∉ before) (absent' : sep ∉ before') : before = before' ∧ after = after' := by
  have same := (span_split absent).symm.trans (split ▸ split' ▸ span_split absent')
  simp only [Prod.mk.injEq, List.cons.injEq, true_and] at same
  exact same

theorem lookup_isSome_iff (venues : List (String × String)) (name : String) :
    (venues.lookup name).isSome = true ↔ name ∈ venues.map Prod.fst := by
  induction venues with
  | nil => simp
  | cons v venues ih =>
    obtain ⟨n, u⟩ := v
    by_cases same : name = n
    · simp [same]
    · have apart : (name == n) = false := by simpa using same
      simp [List.lookup_cons, apart, ih, same]

/-- **A well-formed `name=url` pair.** Trimmed, the pair is `raw=rest` with no `=` in `raw`; the
name is `raw` trimmed, not empty and without `:`; `rest` is not empty, and the url is `rest`
trimmed. -/
def NamesVenue (pair name url : String) : Prop :=
  ∃ raw rest : List Char, (Text.trimBlank pair).toList = raw ++ '=' :: rest ∧ '=' ∉ raw ∧
    name = Text.trimBlank (String.ofList raw) ∧ name ≠ "" ∧ ':' ∉ name.toList ∧ rest ≠ [] ∧
    url = Text.trimBlank (String.ofList rest)

/-- **One pair is added exactly when it is well formed and its name is new.** -/
theorem addVenuePair_eq_ok_iff (venues : List (String × String)) (pair : String)
    (venues' : List (String × String)) :
    addVenuePair venues pair = .ok venues' ↔
      ∃ name url, NamesVenue pair name url ∧ name ∉ venues.map Prod.fst ∧
        venues' = venues ++ [(name, url)] := by
  rcases cut_cases (Text.trimBlank pair) '=' with ⟨absent, cutIs⟩ |
    ⟨raw, rest, split, absent, cutIs⟩
  · -- without `=` the pair is refused, and it names nothing
    constructor
    · intro ok
      simp [addVenuePair, cutIs] at ok
    · rintro ⟨name, url, ⟨raw, rest, split, -⟩, -⟩
      exact absurd (split ▸ List.mem_append_right raw List.mem_cons_self) absent
  constructor
  · intro ok
    simp only [addVenuePair, cutIs] at ok
    split_ifs at ok with bad colon taken
    cases ok
    simp only [Bool.not_true, Bool.false_or, Bool.or_eq_true, not_or, Bool.not_eq_true,
      String.isEmpty_eq_false_iff] at bad
    have plain : ':' ∉ (Text.trimBlank (String.ofList raw)).toList := by
      simpa [String.contains_char_eq] using colon
    have fresh : Text.trimBlank (String.ofList raw) ∉ venues.map Prod.fst := by
      simpa [lookup_isSome_iff] using taken
    have filled : rest ≠ [] := by
      simpa [← String.toList_inj] using bad.2
    exact ⟨_, _, ⟨raw, rest, split, absent, rfl, bad.1, plain, filled, rfl⟩, fresh, rfl⟩
  · rintro ⟨name, url, ⟨raw', rest', split', absent', rfl, named, plain, filled, rfl⟩, fresh, rfl⟩
    obtain ⟨rfl, rfl⟩ := split_unique split split' absent absent'
    have colon : (Text.trimBlank (String.ofList raw)).contains ':' = false := by
      simpa [String.contains_char_eq] using plain
    have taken : (venues.lookup (Text.trimBlank (String.ofList raw))).isSome = false := by
      rw [← Bool.not_eq_true, lookup_isSome_iff]
      exact fresh
    have full : (String.ofList rest).isEmpty = false := by
      simpa [← String.toList_inj] using filled
    have nonempty : (Text.trimBlank (String.ofList raw)).isEmpty = false := by
      simpa using named
    simp [addVenuePair, cutIs, colon, taken, full, nonempty]

/-- A pair names one venue and one url. -/
theorem NamesVenue.unique {pair name url name' url' : String} (named : NamesVenue pair name url)
    (named' : NamesVenue pair name' url') : name = name' ∧ url = url' := by
  obtain ⟨raw, rest, split, absent, rfl, -, -, -, rfl⟩ := named
  obtain ⟨raw', rest', split', absent', rfl, -, -, -, rfl⟩ := named'
  obtain ⟨rfl, rfl⟩ := split_unique split split' absent absent'
  exact ⟨rfl, rfl⟩

/-- **The url of a well-formed pair is not empty**: what follows the `=` ends where the trimmed
pair ends, on a character that is no blank. -/
theorem NamesVenue.url_ne_empty {pair name url : String} (named : NamesVenue pair name url) :
    url ≠ "" := by
  obtain ⟨raw, rest, split, -, -, -, -, filled, rfl⟩ := named
  have whole : (Text.trimBlank pair).toList ≠ [] := by simp [split]
  have last : rest.getLast filled = (Text.trimBlank pair).toList.getLast whole := by
    simp [split, filled]
  intro empty
  have blank := (Text.trimBlank_eq_empty_iff _).mp empty (rest.getLast filled)
    (by simp [List.getLast_mem filled])
  rw [last, Text.getLast_trimBlank] at blank
  exact Bool.noConfusion blank

theorem fresh_of_nodup {acc added : List (String × String)} {v : String × String}
    (distinct : ((acc ++ v :: added).map Prod.fst).Nodup) : v.1 ∉ acc.map Prod.fst := by
  rw [List.map_append, List.nodup_append] at distinct
  exact fun mem => distinct.2.2 _ mem _ List.mem_cons_self rfl

/-- **The run lemma**: reading pairs after `acc` succeeds exactly when every pair is well formed
and no name comes twice, and then adds one venue per pair. -/
theorem foldlM_addVenuePair (pairs : List String) {acc : List (String × String)}
    (distinct : (acc.map Prod.fst).Nodup) (out : List (String × String)) :
    pairs.foldlM addVenuePair acc = .ok out ↔
      ∃ added, List.Forall₂ (fun pair v => NamesVenue pair v.1 v.2) pairs added ∧
        ((acc ++ added).map Prod.fst).Nodup ∧ out = acc ++ added := by
  induction pairs generalizing acc with
  | nil =>
    simp only [List.foldlM_nil, List.forall₂_nil_left_iff, exists_eq_left, List.append_nil]
    exact ⟨fun same => ⟨distinct, (Except.ok.inj same).symm⟩, fun ⟨_, same⟩ => same ▸ rfl⟩
  | cons pair pairs ih =>
    rw [List.foldlM_cons]
    rcases step : addVenuePair acc pair with f | acc'
    · -- a refused pair refuses the whole list: no well-formed reading of it exists
      constructor
      · intro refused
        cases refused
      · rintro ⟨_ | ⟨v, added⟩, read, distinct', -⟩
        · cases read
        · obtain ⟨named, -⟩ := List.forall₂_cons.mp read
          have added := (addVenuePair_eq_ok_iff acc pair _).mpr
            ⟨v.1, v.2, named, fresh_of_nodup distinct', rfl⟩
          rw [step] at added
          cases added
    · obtain ⟨name, url, named, fresh, rfl⟩ := (addVenuePair_eq_ok_iff acc pair acc').mp step
      have distinct' : ((acc ++ [(name, url)]).map Prod.fst).Nodup := by
        rw [List.map_append, List.nodup_append]
        exact ⟨distinct, by simp, fun a mem b same => by
          rw [List.mem_singleton.mp same]
          intro eq
          subst eq
          exact fresh mem⟩
      show (pairs.foldlM addVenuePair (acc ++ [(name, url)])) = .ok out ↔ _
      rw [ih distinct']
      constructor
      · rintro ⟨added, read, distinct'', rfl⟩
        exact ⟨(name, url) :: added, .cons named read, by simpa using distinct'', by simp⟩
      · rintro ⟨_ | ⟨v, added⟩, read, distinct'', rfl⟩
        · cases read
        · obtain ⟨named', read'⟩ := List.forall₂_cons.mp read
          obtain ⟨rfl, rfl⟩ := named.unique named'
          exact ⟨added, read', by simpa using distinct'', by simp⟩

/-- **Reading venue pairs**: it succeeds exactly when every pair is well formed and no name
comes twice, and gives each pair's name and url in the order of the pairs. -/
theorem parseVenues_eq_ok_iff (pairs : List String) (venues : List (String × String)) :
    parseVenues pairs = .ok venues ↔
      List.Forall₂ (fun pair v => NamesVenue pair v.1 v.2) pairs venues ∧
        (venues.map Prod.fst).Nodup := by
  have none : (([] : List (String × String)).map Prod.fst).Nodup := List.nodup_nil
  rw [parseVenues, foldlM_addVenuePair pairs none venues]
  simp only [List.nil_append]
  constructor
  · rintro ⟨added, read, distinct, rfl⟩
    exact ⟨read, distinct⟩
  · rintro ⟨read, distinct⟩
    exact ⟨venues, read, distinct, rfl⟩

theorem NamesVenue.of_mem {pairs : List String} {venues : List (String × String)}
    (read : List.Forall₂ (fun pair v => NamesVenue pair v.1 v.2) pairs venues)
    {v : String × String} (mem : v ∈ venues) : ∃ pair ∈ pairs, NamesVenue pair v.1 v.2 := by
  induction read with
  | nil => cases mem
  | cons named _ ih =>
    rcases List.mem_cons.mp mem with rfl | later
    · exact ⟨_, List.mem_cons_self, named⟩
    · obtain ⟨pair, listed, named'⟩ := ih later
      exact ⟨pair, List.mem_cons_of_mem _ listed, named'⟩

/-! ## Invoking an operation of a named venue -/

namespace World

/-- **Invoking `ref` hands its job to adapter `a` with operation `o`**, unless the venue is
closed or mints no fresh id; then the invocation fails and the jobs stay as they were. The job
handed over is the new `PENDING` job of `ref`. -/
def Dispatched (w : World) (v : Nat) (x : Venue) (a : Adapter) (ref o : String) (input : Value)
    (res : Except Fault Nat) (w' : World) : Prop :=
  (∃ f, res = .error f ∧ w'.jobView = w.jobView ∧
      (x.closed = true ∨ (∃ e, (x.ids.next w.millis).1 = .error e) ∨
        ∃ jid, (x.ids.next w.millis).1 = .ok jid ∧ (x.lookup jid.text).isSome)) ∨
    ∃ md jid scope w₁, res = .ok w.cells.size ∧ (x.ids.next w.millis).1 = .ok jid ∧
      w₁.jobView = w.jobView.enter v (createdRecord w.millis jid.text ref input md.name) ∧
      w' = ((runAdapter v a w.cells.size scope o md input).run w₁).2

/-- **An invocation of `n:o` goes to the adapter registered as `n`, with operation `o`.** -/
theorem invoke_dispatched {w : World} {v : Nat} {x : Venue} (found : w.venue? v = some x)
    {n : String} (plain : ':' ∉ n.toList) (o : String) {a : Adapter}
    (registered : x.adapters.find? (·.name == n) = some a) (input : Value) (cb : Option Callback)
    (given : Option Metadata) :
    Dispatched w v x a (n ++ ":" ++ o) o input ((invoke v (n ++ ":" ++ o) input cb given).run w).1
      ((invoke v (n ++ ":" ++ o) input cb given).run w).2 := by
  have literal := isLiteralRef_named n o
  -- a literal reference resolves to metadata naming itself, which splits into `n` and `o`
  have named : ∀ md, x.resolve (n ++ ":" ++ o) given = .ok md →
      splitRef md.adapterOp = (n, o) := by
    intro md resolved
    obtain ⟨md', resolved', op⟩ := x.resolve_literal literal given
    rw [resolved] at resolved'
    cases resolved'
    rw [op, splitRef_named plain]
  have invoked := invoke_invoked found (n ++ ":" ++ o) input cb given
  generalize ((invoke v (n ++ ":" ++ o) input cb given).run w).1 = res at invoked ⊢
  generalize ((invoke v (n ++ ":" ++ o) input cb given).run w).2 = w' at invoked ⊢
  cases invoked with
  | closed shut => exact .inl ⟨_, rfl, rfl, .inl shut⟩
  | unnamed _ empty =>
    have chars := congrArg String.toList (String.isEmpty_iff.mp empty)
    simp [String.toList_append] at chars
  | unregistered _ _ resolved missing =>
    rw [named _ resolved] at missing
    simp [registered] at missing
  | unminted _ _ _ minted kept => exact .inl ⟨_, rfl, kept, .inr (.inl ⟨_, minted⟩)⟩
  | duplicate _ _ _ minted taken kept => exact .inl ⟨_, rfl, kept, .inr (.inr ⟨_, minted, taken⟩)⟩
  | unresolved _ _ failed =>
    cases failed with
    | notFound hash => rw [literal] at hash; cases hash
    | noAdapter hash => rw [literal] at hash; cases hash
  | started _ _ resolved registered' minted _ entered _ _ ran =>
    rw [named _ resolved] at registered' ran
    rw [registered] at registered'
    cases registered'
    exact .inr ⟨_, _, _, _, rfl, minted, entered, ran⟩

end World

/-- **A reference `n:o` routes to the adapter registered as `n`**: it is literal, it splits
into `n` and `o`, and every invocation of it is dispatched to that adapter with `o`. -/
structure Routes (n o : String) : Prop where
  literal : isLiteralRef (n ++ ":" ++ o) = true
  splits : splitRef (n ++ ":" ++ o) = (n, o)
  dispatched : ∀ {w : World} {v : Nat} {x : Venue} {a : Adapter}, w.venue? v = some x →
    x.adapters.find? (·.name == n) = some a → ∀ input cb given,
      World.Dispatched w v x a (n ++ ":" ++ o) o input
        ((World.invoke v (n ++ ":" ++ o) input cb given).run w).1
        ((World.invoke v (n ++ ":" ++ o) input cb given).run w).2

theorem routes_of_plain {n : String} (plain : ':' ∉ n.toList) (o : String) : Routes n o :=
  ⟨isLiteralRef_named n o, splitRef_named plain o,
    fun found registered input cb given =>
      World.invoke_dispatched found plain o registered input cb given⟩

/-- **Venue names route unambiguously.** Reading `name=url` pairs succeeds exactly when every
pair, trimmed, is a name without `:` and a non-empty rest around its first `=` and no two pairs
share a name, and then gives each pair's trimmed name and trimmed url, which is not empty; for
every name read and every operation `o`, the reference `name:o` is dispatched to the adapter
registered under that name, with operation `o`. -/
theorem venue_names_route (pairs : List String) (venues : List (String × String)) :
    (parseVenues pairs = .ok venues ↔
      List.Forall₂ (fun pair v => NamesVenue pair v.1 v.2) pairs venues ∧
        (venues.map Prod.fst).Nodup) ∧
    (parseVenues pairs = .ok venues → ∀ v ∈ venues, v.2 ≠ "" ∧ ∀ o, Routes v.1 o) := by
  refine ⟨parseVenues_eq_ok_iff pairs venues, fun read v mem => ?_⟩
  obtain ⟨pair, -, named⟩ := NamesVenue.of_mem ((parseVenues_eq_ok_iff pairs venues).mp read).1 mem
  have filled := named.url_ne_empty
  obtain ⟨raw, rest, -, -, -, -, plain, -, -⟩ := named
  exact ⟨filled, routes_of_plain plain⟩

end JobEngine
