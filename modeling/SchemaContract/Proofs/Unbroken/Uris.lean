import SchemaContract.Proofs.Plans
import SchemaContract.Proofs.Unbroken.Texts

/-!
# URIs without escapes

A reference that holds neither line breaks nor percent signs leads from URIs without them to others:
whatever is cut out of them, put together and brought into normal form stays free of them.
-/

namespace SchemaContract

namespace Text

/-- Nothing in the text breaks a line, or stands for something else. -/
def Verbatim (cs : List Char) : Prop := Unbroken cs ∧ '%' ∉ cs

instance (cs : List Char) : Decidable (Verbatim cs) :=
  inferInstanceAs (Decidable (Unbroken cs ∧ '%' ∉ cs))

@[simp] theorem verbatim_nil : Verbatim [] := ⟨unbroken_nil, List.not_mem_nil⟩

@[simp] theorem verbatim_cons {c : Char} {cs : List Char} :
    Verbatim (c :: cs) ↔ (c ≠ '\n' ∧ c ≠ '\r' ∧ c ≠ '%') ∧ Verbatim cs := by
  simp only [Verbatim, unbroken_cons, List.mem_cons, not_or, ne_comm (a := '%')]
  tauto

@[simp] theorem verbatim_append {as bs : List Char} :
    Verbatim (as ++ bs) ↔ Verbatim as ∧ Verbatim bs := by
  simp only [Verbatim, unbroken_append, List.mem_append, not_or]
  tauto

theorem Verbatim.subset {as bs : List Char} (h : Verbatim bs) (hSub : as ⊆ bs) : Verbatim as :=
  ⟨h.1.subset hSub, fun hm => h.2 (hSub hm)⟩

theorem verbatim_toDigits {b : Nat} (hb : 1 < b) (hMax : b ≤ 16) (n : Nat) :
    Verbatim (Nat.toDigits b n) := by
  have hDigit : ∀ m < 16, Verbatim [Nat.digitChar m] := by decide
  induction n using Nat.strongRecOn with
  | ind n ih =>
    rw [Nat.toDigits_eq_if hb]
    split_ifs with h
    · exact hDigit n (by omega)
    · have hRest := Nat.mod_lt n (Nat.zero_lt_of_lt hb)
      exact verbatim_append.mpr ⟨ih (n / b) (Nat.div_lt_self (by omega) hb),
        hDigit (n % b) (by omega)⟩

theorem verbatim_intersperse {sep : List Char} {texts : List (List Char)} (hSep : Verbatim sep)
    (h : ∀ cs ∈ texts, Verbatim cs) : Verbatim (texts.intersperse sep).flatten := by
  induction texts with
  | nil => exact verbatim_nil
  | cons cs texts ih =>
    obtain ⟨hcs, hRest⟩ := List.forall_mem_cons.mp h
    cases texts with
    | nil => simpa using hcs
    | cons ds texts =>
      rw [List.intersperse_cons_cons, List.flatten_cons, List.flatten_cons, verbatim_append,
        verbatim_append]
      exact ⟨hcs, hSep, ih hRest⟩

theorem toLower_ne {c d : Char} (hd : d.toNat < 65) (h : c ≠ d) : c.toLower ≠ d := by
  unfold Char.toLower
  split
  next hUpper =>
    rintro rfl
    have hLow : 65 ≤ c.val.toNat := hUpper.1
    have hHigh : c.val.toNat ≤ 90 := hUpper.2
    change (c.val + 32).toNat < 65 at hd
    rw [UInt32.toNat_add] at hd
    change (c.val.toNat + 32) % 2 ^ 32 < 65 at hd
    omega
  next => exact h

theorem verbatim_map_toLower {cs : List Char} (h : Verbatim cs) :
    Verbatim (cs.map Char.toLower) := by
  induction cs with
  | nil => exact verbatim_nil
  | cons c cs ih =>
    obtain ⟨⟨hNewline, hReturn, hPercent⟩, hcs⟩ := verbatim_cons.mp h
    exact verbatim_cons.mpr ⟨⟨toLower_ne (by decide) hNewline, toLower_ne (by decide) hReturn,
      toLower_ne (by decide) hPercent⟩, ih hcs⟩

end Text

open Text

/-! ## Addresses -/

namespace Address

theorem numberItem_verbatim (colon : Bool) {cs : List Char} (h : Text.Verbatim cs) :
    Text.Verbatim (numberItem colon cs).2 := by
  have hDrop : ∀ n, Text.Verbatim (cs.drop n) := fun n => h.subset (List.drop_subset n cs)
  unfold numberItem
  dsimp only
  split
  next => exact h
  next rest hDigits => exact hDigits ▸ hDrop _
  next => exact verbatim_nil
  next => exact h
  next => exact hDrop _

theorem nextItem_verbatim {cs : List Char} (h : Text.Verbatim cs) :
    Text.Verbatim (nextItem cs).2 := by
  unfold nextItem
  split
  next rest => exact (verbatim_cons.mp (verbatim_cons.mp h).2).2
  next rest _ => exact numberItem_verbatim true (verbatim_cons.mp h).2
  next => exact numberItem_verbatim false h

theorem readOctet_verbatim {cs rest : List Char} {n : Nat} (h : Text.Verbatim cs)
    (hr : readOctet cs = some (n, rest)) : Text.Verbatim rest := by
  unfold readOctet at hr
  split at hr
  next tail =>
    cases hr
    exact (verbatim_cons.mp h).2
  next =>
    dsimp only at hr
    split_ifs at hr
    cases hr
    exact h.subset (List.drop_subset _ cs)

theorem readOctets_verbatim {n : Nat} {cs rest : List Char} {values : List Nat}
    (h : Text.Verbatim cs) (hr : readOctets n cs = some (values, rest)) : Text.Verbatim rest := by
  fun_induction readOctets n cs generalizing values rest with
  | case1 cs =>
    cases hr
    exact h
  | case2 n cs hNone => cases hr
  | case3 n cs v tail hOctet ih =>
    obtain ⟨⟨others, last⟩, hOthers, heq⟩ := Option.map_eq_some_iff.mp hr
    cases heq
    exact ih (readOctet_verbatim (verbatim_cons.mp h).2 hOctet) hOthers
  | case4 => cases hr

theorem readItems_verbatim {steps : Nat} {g g' : Groups} {cs rest : List Char}
    (h : Text.Verbatim cs) (hr : readItems steps g cs = some (g', rest)) : Text.Verbatim rest := by
  induction steps generalizing g cs with
  | zero =>
    cases hr
    exact h
  | succ steps ih =>
    have hNext := nextItem_verbatim h
    rw [readItems] at hr
    by_cases hFull : g.found.length = maxGroups
    · rw [if_pos hFull] at hr
      cases hr
      exact h
    · rw [if_neg hFull] at hr
      generalize nextItem cs = next at hr hNext
      split at hr
      next =>
        cases hr
        exact hNext
      next => cases hr
      next =>
        split_ifs at hr
        exact ih hNext hr
      next =>
        split_ifs at hr
        exact ih hNext hr
      next =>
        split_ifs at hr
        split at hr
        next hOctets =>
          cases hr
          exact readOctets_verbatim (verbatim_cons.mpr ⟨by decide, hNext⟩) hOctets
        next => cases hr

theorem readIpv6_verbatim {cs rest : List Char} {groups : List Nat} (h : Text.Verbatim cs)
    (hr : readIpv6 cs = .found groups rest) : Text.Verbatim rest := by
  unfold readIpv6 at hr
  split at hr
  next found behind hFound =>
    cases hr
    obtain ⟨⟨g, last⟩, hItems, hComplete⟩ := Option.bind_eq_some_iff.mp hFound
    obtain ⟨all, -, heq⟩ := Option.map_eq_some_iff.mp hComplete
    cases heq
    exact readItems_verbatim h hItems
  next =>
    split at hr
    next => split_ifs at hr
    next => cases hr
    next => cases hr

theorem verbatim_ipv6Text (groups : List Nat) : Text.Verbatim (ipv6Text groups) := by
  have hGroups : ∀ groups, Text.Verbatim (groupsText groups) := by
    intro groups
    refine verbatim_intersperse (by simp) (List.forall_mem_map.mpr fun n _ => ?_)
    exact verbatim_toDigits (by omega) (by omega) n
  unfold ipv6Text
  split
  next a b =>
    have hPrefix : Text.Verbatim "::ffff:".toList := by decide
    refine verbatim_append.mpr ⟨hPrefix, verbatim_intersperse (by simp) ?_⟩
    exact List.forall_mem_map.mpr fun n _ => verbatim_toDigits (by omega) (by omega) n
  next =>
    dsimp only
    split_ifs
    · exact hGroups _
    · exact verbatim_append.mpr ⟨verbatim_append.mpr ⟨hGroups _, by simp⟩, hGroups _⟩

end Address

theorem forall_mem_some {α : Type} {P : α → Prop} {a : α} (h : P a) : ∀ b ∈ some a, P b := by
  rintro b ⟨⟩
  exact h

theorem forall_mem_map {α β : Type} {P : α → Prop} {Q : β → Prop} {o : Option α} {f : α → β}
    (hf : ∀ a, P a → Q (f a)) (h : ∀ a ∈ o, P a) : ∀ b ∈ o.map f, Q b := by
  intro b hb
  obtain ⟨a, ha, rfl⟩ := Option.map_eq_some_iff.mp hb
  exact hf a (h a ha)

namespace Uri

/-! ## Parts -/

def Host.Verbatim : Host → Prop
  | .name text => Text.Verbatim text
  | .ipv6 _ => True
  | .future text => Text.Verbatim text

structure Authority.Verbatim (a : Authority) : Prop where
  user : ∀ user ∈ a.user, Text.Verbatim user
  host : a.host.Verbatim
  port : ∀ port ∈ a.port, Text.Verbatim port

/-- Every part of the URI is written as it is. -/
structure Verbatim (u : Uri) : Prop where
  scheme : ∀ scheme ∈ u.scheme, Text.Verbatim scheme
  authority : ∀ authority ∈ u.authority, authority.Verbatim
  path : Text.Verbatim u.path
  query : ∀ query ∈ u.query, Text.Verbatim query
  fragment : ∀ fragment ∈ u.fragment, Text.Verbatim fragment

/-! ## Reading -/

/-- What was read and what is left to be read are written as they are. -/
structure Run.Verbatim (r : Run) : Prop where
  text : Text.Verbatim r.text
  rest : Text.Verbatim r.rest

theorem Run.Verbatim.before {r : Run} (hr : r.Verbatim) {text : List Char}
    (h : Text.Verbatim text) : (r.before text).Verbatim :=
  ⟨verbatim_append.mpr ⟨h, hr.text⟩, hr.rest⟩

theorem run_verbatim {allowed : Char → Bool} {i : Nat} {cs : List Char} {r : Run}
    (h : Text.Verbatim cs) (hr : run allowed i cs = .ok r) : r.Verbatim := by
  induction cs generalizing i r with
  | nil =>
    cases hr
    exact ⟨h, h⟩
  | cons c cs ih =>
    obtain ⟨⟨hNewline, hReturn, hc⟩, hcs⟩ := verbatim_cons.mp h
    rw [run.eq_3 _ _ _ _ (fun x y rest e => absurd e hc), if_neg hc] at hr
    split_ifs at hr
    · obtain ⟨inner, hInner, rfl⟩ := exceptMap_eq_ok_iff.mp hr
      exact (ih hcs hInner).before (by simp [hNewline, hReturn, hc])
    · cases hr
      exact ⟨verbatim_nil, h⟩

theorem plainRun_verbatim (allowed : Char → Bool) (i : Nat) {cs : List Char}
    (h : Text.Verbatim cs) : (plainRun allowed i cs).Verbatim :=
  ⟨h.subset (List.takeWhile_subset _), h.subset (List.drop_subset _ _)⟩

theorem futureHost_verbatim {i j : Nat} {cs rest : List Char} {host : Host}
    (h : Text.Verbatim cs) (hr : futureHost i cs = .ok (host, j, rest)) :
    host.Verbatim ∧ Text.Verbatim rest := by
  cases cs with
  | nil => cases hr
  | cons c cs =>
    obtain ⟨hc, hcs⟩ := verbatim_cons.mp h
    have hVersion := plainRun_verbatim isHexDigit (i + 1) hcs
    rw [futureHost] at hr
    dsimp only at hr
    split_ifs at hr
    generalize plainRun isHexDigit (i + 1) cs = version at hr hVersion
    split at hr
    next body _ hBody =>
      obtain ⟨-, hRest⟩ := verbatim_cons.mp (hBody ▸ hVersion.rest)
      have hOwn := plainRun_verbatim isFutureChar (version.stop + 1) hRest
      split_ifs at hr
      cases hr
      refine ⟨verbatim_cons.mpr ⟨hc, verbatim_append.mpr ⟨hVersion.text, ?_⟩⟩, hOwn.rest⟩
      exact verbatim_cons.mpr ⟨by decide, hOwn.text⟩
    next => cases hr

theorem bracketHost_verbatim {i j : Nat} {cs rest : List Char} {host : Host}
    (h : Text.Verbatim cs) (hr : bracketHost i cs = .ok (host, j, rest)) :
    host.Verbatim ∧ Text.Verbatim rest := by
  rw [bracketHost] at hr
  split at hr
  next read stop rest' hRead =>
    cases hr
    have hHost : host.Verbatim ∧ Text.Verbatim (']' :: rest) := by
      split at hRead
      next groups others hFound =>
        cases hRead
        exact ⟨trivial, Address.readIpv6_verbatim h hFound⟩
      next => exact futureHost_verbatim h hRead
      next => cases hRead
    exact ⟨hHost.1, (verbatim_cons.mp hHost.2).2⟩
  next => cases hr
  next => cases hr

theorem withPort_verbatim {user : Option (List Char)} {host : Host} {i : Nat} {rest : List Char}
    (hUser : ∀ u ∈ user, Text.Verbatim u) (hHost : host.Verbatim) (hRest : Text.Verbatim rest) :
    (withPort user (host, i, rest)).1.Verbatim ∧
      Text.Verbatim (withPort user (host, i, rest)).2.2 := by
  unfold withPort readPort
  dsimp only
  split
  next digits =>
    have hDigits := plainRun_verbatim Char.isDigit (i + 1) (verbatim_cons.mp hRest).2
    refine ⟨⟨hUser, hHost, ?_⟩, hDigits.rest⟩
    rintro port ⟨⟩
    exact hDigits.text
  next => exact ⟨⟨hUser, hHost, nofun⟩, hRest⟩

theorem nameAndPort_verbatim {i : Nat} {text : List Char} {a : Authority} (h : Text.Verbatim text)
    (hr : nameAndPort i text = .ok a) : a.Verbatim := by
  have hPiece : ∀ piece ∈ pieces ':' text, Text.Verbatim piece := fun piece hp =>
    h.subset (subset_of_mem_pieces hp)
  unfold nameAndPort at hr
  split at hr
  next name hPieces =>
    cases hr
    exact ⟨nofun, hPiece name (by simp [hPieces]), nofun⟩
  next name port hPieces =>
    dsimp only at hr
    split_ifs at hr
    cases hr
    refine ⟨nofun, hPiece name (by simp [hPieces]), ?_⟩
    rintro port ⟨⟩
    exact hPiece port (by simp [hPieces])
  next => cases hr

theorem readAuthority_verbatim {alphabet : Alphabet} {i j : Nat} {cs rest : List Char}
    {a : Authority} (h : Text.Verbatim cs) (hr : readAuthority alphabet i cs = .ok (a, j, rest)) :
    a.Verbatim ∧ Text.Verbatim rest := by
  obtain ⟨user, hUser, hr⟩ := exceptBind_eq_ok_iff.mp hr
  obtain ⟨hText, hRest⟩ := run_verbatim h hUser
  have hSome : ∀ text ∈ some user.text, Text.Verbatim text := by
    rintro text ⟨⟩
    exact hText
  have hNamed : ∀ tail,
      (do return (← nameAndPort i user.text, user.stop, tail)) = Except.ok (a, j, rest) →
        Text.Verbatim tail → a.Verbatim ∧ Text.Verbatim rest := by
    intro tail hr hTail
    obtain ⟨authority, hAuthority, hr⟩ := exceptBind_eq_ok_iff.mp hr
    cases hr
    exact ⟨nameAndPort_verbatim hText hAuthority, hTail⟩
  split at hr
  next tail hTail =>
    obtain ⟨⟨host, k, behind⟩, hHost, hr⟩ := exceptBind_eq_ok_iff.mp hr
    rw [hTail, verbatim_cons, verbatim_cons] at hRest
    obtain ⟨hHost, hBehind⟩ := bracketHost_verbatim hRest.2.2 hHost
    have hPort := withPort_verbatim (i := k) hSome hHost hBehind
    rwa [Except.ok.inj hr] at hPort
  next tail _ hTail =>
    obtain ⟨name, hName, hr⟩ := exceptBind_eq_ok_iff.mp hr
    rw [hTail, verbatim_cons] at hRest
    obtain ⟨hName, hBehind⟩ := run_verbatim hRest.2 hName
    have hHost : (Host.name name.text).Verbatim := hName
    have hPort := withPort_verbatim (i := name.stop) hSome hHost hBehind
    rwa [Except.ok.inj hr] at hPort
  next tail hTail =>
    split_ifs at hr
    · obtain ⟨⟨host, k, behind⟩, hHost, hr⟩ := exceptBind_eq_ok_iff.mp hr
      rw [hTail, verbatim_cons] at hRest
      obtain ⟨hHost, hBehind⟩ := bracketHost_verbatim hRest.2 hHost
      have hNone : ∀ text ∈ (none : Option (List Char)), Text.Verbatim text := nofun
      have hPort := withPort_verbatim (i := k) hNone hHost hBehind
      rwa [Except.ok.inj hr] at hPort
    · exact hNamed _ hr hRest
  next => exact hNamed _ hr hRest

theorem readTail_verbatim {alphabet : Alphabet} {scheme : Option (List Char)}
    {authority : Option Authority} {path : Run} {u : Uri} (hScheme : ∀ s ∈ scheme, Text.Verbatim s)
    (hAuthority : ∀ a ∈ authority, a.Verbatim) (hPath : path.Verbatim)
    (hr : readTail alphabet scheme authority path = .ok u) : u.Verbatim := by
  have hFinish : ∀ {query fragment : Option (List Char)}, (∀ q ∈ query, Text.Verbatim q) →
      (∀ f ∈ fragment, Text.Verbatim f) →
        Verbatim ⟨scheme, authority, path.text, query, fragment⟩ :=
    fun hQuery hFragment => ⟨hScheme, hAuthority, hPath.text, hQuery, hFragment⟩
  unfold readTail at hr
  simp only [pure_bind] at hr
  split at hr
  next tail hTail =>
    obtain ⟨q, hq, hr⟩ := exceptBind_eq_ok_iff.mp hr
    have hBehind := hPath.rest
    rw [hTail, verbatim_cons] at hBehind
    obtain ⟨hText, hRest⟩ := run_verbatim hBehind.2 hq
    split at hr
    next more hMore =>
      obtain ⟨f, hf, hr⟩ := exceptBind_eq_ok_iff.mp hr
      rw [hMore, verbatim_cons] at hRest
      split_ifs at hr
      cases hr
      exact hFinish (forall_mem_some hText) (forall_mem_some (run_verbatim hRest.2 hf).text)
    next =>
      split_ifs at hr
      cases hr
      exact hFinish (forall_mem_some hText) nofun
  next =>
    split at hr
    next more hMore =>
      obtain ⟨f, hf, hr⟩ := exceptBind_eq_ok_iff.mp hr
      have hRest := hPath.rest
      rw [hMore, verbatim_cons] at hRest
      split_ifs at hr
      cases hr
      exact hFinish nofun (forall_mem_some (run_verbatim hRest.2 hf).text)
    next =>
      split_ifs at hr
      cases hr
      exact hFinish nofun nofun

theorem readHierarchy_verbatim {alphabet : Alphabet} {scheme : Option (List Char)} {i : Nat}
    {cs : List Char} {u : Uri} (hScheme : ∀ s ∈ scheme, Text.Verbatim s) (h : Text.Verbatim cs)
    (hr : readHierarchy alphabet scheme i cs = .ok u) : u.Verbatim := by
  unfold readHierarchy at hr
  split at hr
  next rest =>
    rw [verbatim_cons, verbatim_cons] at h
    obtain ⟨⟨authority, j, behind⟩, hAuthority, hr⟩ := exceptBind_eq_ok_iff.mp hr
    obtain ⟨hAuthority, hBehind⟩ := readAuthority_verbatim h.2.2 hAuthority
    obtain ⟨path, hPath, hr⟩ := exceptBind_eq_ok_iff.mp hr
    split_ifs at hr
    refine readTail_verbatim hScheme ?_ (run_verbatim hBehind hPath) hr
    rintro a ⟨⟩
    exact hAuthority
  next =>
    obtain ⟨path, hPath, hr⟩ := exceptBind_eq_ok_iff.mp hr
    refine readTail_verbatim hScheme ?_ (run_verbatim h hPath) hr
    exact nofun

theorem read_verbatim {alphabet : Alphabet} {cs : List Char} {u : Uri} (h : Text.Verbatim cs)
    (hr : read alphabet cs = .ok u) : u.Verbatim := by
  unfold read at hr
  dsimp only at hr
  split at hr
  next rest hRest =>
    split_ifs at hr
    have hBehind : Text.Verbatim (':' :: rest) := hRest ▸ h.subset (List.drop_subset _ _)
    refine readHierarchy_verbatim ?_ (verbatim_cons.mp hBehind).2 hr
    rintro scheme ⟨⟩
    exact h.subset (List.takeWhile_subset _)
  next =>
    split at hr
    next =>
      refine readHierarchy_verbatim ?_ h hr
      exact nofun
    next =>
      obtain ⟨segment, hSegment, hr⟩ := exceptBind_eq_ok_iff.mp hr
      obtain ⟨hText, hRest⟩ := run_verbatim h hSegment
      split_ifs at hr
      obtain ⟨path, hPath, hr⟩ := exceptBind_eq_ok_iff.mp hr
      refine readTail_verbatim ?_ ?_ ((run_verbatim hRest hPath).before hText) hr
      · exact nofun
      · exact nofun

/-! ## Resolving -/

theorem dropDots_verbatim {segments kept : List (List Char)}
    (h : ∀ s ∈ segments, Text.Verbatim s) (hKept : ∀ s ∈ kept, Text.Verbatim s) :
    ∀ s ∈ dropDots segments kept, Text.Verbatim s := by
  induction segments generalizing kept with
  | nil =>
    intro s hs
    exact hKept s (List.mem_reverse.mp hs)
  | cons first segments ih =>
    obtain ⟨hFirst, hRest⟩ := List.forall_mem_cons.mp h
    have hTail : ∀ s ∈ kept.tail, Text.Verbatim s := fun s hs => hKept s (List.mem_of_mem_tail hs)
    have hLast : ∀ {kept : List (List Char)}, (∀ s ∈ kept, Text.Verbatim s) →
        ∀ s ∈ ([] :: kept).reverse, Text.Verbatim s := by
      intro kept hKept s hs
      rcases List.mem_cons.mp (List.mem_reverse.mp hs) with rfl | hs
      · exact verbatim_nil
      · exact hKept s hs
    rw [dropDots]
    split_ifs
    · exact hLast hKept
    · exact ih hRest hKept
    · exact hLast hTail
    · exact ih hRest hTail
    · exact ih hRest (List.forall_mem_cons.mpr ⟨hFirst, hKept⟩)

theorem plainPath_verbatim {path : List Char} (h : Text.Verbatim path) :
    Text.Verbatim (plainPath path) := by
  unfold plainPath
  split
  next rest =>
    obtain ⟨hSlash, hRest⟩ := verbatim_cons.mp h
    refine verbatim_cons.mpr ⟨hSlash, verbatim_intersperse (by decide) ?_⟩
    exact dropDots_verbatim (fun s hs => hRest.subset (subset_of_mem_pieces hs))
      (fun s hs => absurd hs List.not_mem_nil)
  next => exact h

theorem guardPath_verbatim (authority : Option Authority) {path : List Char}
    (h : Text.Verbatim path) : Text.Verbatim (guardPath authority path) := by
  unfold guardPath
  split
  next => exact verbatim_cons.mpr ⟨by decide, verbatim_cons.mpr ⟨by decide, h⟩⟩
  next => exact h

theorem mergePath_verbatim {base : Uri} {path : List Char} (hBase : base.Verbatim)
    (h : Text.Verbatim path) : Text.Verbatim (mergePath base path) := by
  unfold mergePath
  split_ifs
  · exact verbatim_cons.mpr ⟨by decide, h⟩
  · refine verbatim_append.mpr ⟨hBase.path.subset fun c hc => ?_, h⟩
    exact List.mem_reverse.mp (List.dropWhile_subset _ (List.mem_reverse.mp hc))

theorem resolveRelative_verbatim {base ref : Uri} (hBase : base.Verbatim) (hRef : ref.Verbatim) :
    (resolveRelative base ref).Verbatim := by
  obtain ⟨hScheme, hAuthority, hPath, hQuery, hFragment⟩ := hBase
  have hJoined : Text.Verbatim (if ref.path.isEmpty then base.path
      else if ref.path.head? == some '/' then ref.path else mergePath base ref.path) := by
    split_ifs
    · exact hPath
    · exact hRef.path
    · exact mergePath_verbatim ⟨hScheme, hAuthority, hPath, hQuery, hFragment⟩ hRef.path
  refine ⟨hScheme, hAuthority, guardPath_verbatim _ (plainPath_verbatim hJoined), ?_, hRef.fragment⟩
  rw [resolveRelative]
  dsimp only
  split_ifs
  · exact hQuery
  · exact hRef.query

theorem resolve_verbatim {base ref u : Uri} (hBase : base.Verbatim) (hRef : ref.Verbatim)
    (hr : base.resolve ref = .ok u) : u.Verbatim := by
  unfold resolve at hr
  split_ifs at hr
  all_goals cases hr
  · exact ⟨hRef.scheme, hRef.authority, guardPath_verbatim _ (plainPath_verbatim hRef.path),
      hRef.query, hRef.fragment⟩
  · exact ⟨hBase.scheme, hRef.authority, plainPath_verbatim hRef.path, hRef.query, hRef.fragment⟩
  · exact ⟨hBase.scheme, hBase.authority, hBase.path, hBase.query, hRef.fragment⟩
  · exact resolveRelative_verbatim hBase hRef

theorem plainEscapes_of_verbatim {cs : List Char} (h : Text.Verbatim cs) :
    plainEscapes cs = cs := by
  induction cs with
  | nil => rfl
  | cons c cs ih =>
    obtain ⟨hc, hcs⟩ := verbatim_cons.mp h
    rw [plainEscapes.eq_3 _ _ fun x y rest e => absurd e hc.2.2, ih hcs]

theorem lowerOutsideEscapes_of_verbatim {cs : List Char} (h : Text.Verbatim cs) :
    lowerOutsideEscapes cs = cs.map Char.toLower := by
  induction cs with
  | nil => rfl
  | cons c cs ih =>
    obtain ⟨hc, hcs⟩ := verbatim_cons.mp h
    rw [lowerOutsideEscapes.eq_3 _ _ fun x y rest e => absurd e hc.2.2, ih hcs, List.map_cons]

theorem verbatim_plainEscapes {cs : List Char} (h : Text.Verbatim cs) :
    Text.Verbatim (plainEscapes cs) :=
  (plainEscapes_of_verbatim h).symm ▸ h

theorem Host.Verbatim.normal {host : Host} (h : host.Verbatim) : host.normal.Verbatim := by
  cases host with
  | name text =>
    change Text.Verbatim (lowerOutsideEscapes (plainEscapes text))
    rw [plainEscapes_of_verbatim h, lowerOutsideEscapes_of_verbatim h]
    exact verbatim_map_toLower h
  | ipv6 groups => trivial
  | future text => exact verbatim_map_toLower h

theorem Authority.Verbatim.normal {a : Authority} (h : a.Verbatim) (scheme : Option (List Char)) :
    (a.normal scheme).Verbatim := by
  refine ⟨forall_mem_map (fun _ => verbatim_plainEscapes) h.user, h.host.normal, ?_⟩
  intro port hPort
  obtain ⟨own, hOwn, hPlain⟩ := Option.bind_eq_some_iff.mp hPort
  unfold plainPort at hPlain
  split_ifs at hPlain
  cases hPlain
  exact h.port port hOwn

theorem Verbatim.normal {u : Uri} (h : u.Verbatim) : u.normal.Verbatim := by
  have hPath := verbatim_plainEscapes h.path
  refine ⟨forall_mem_map (fun _ => verbatim_map_toLower) h.scheme,
    forall_mem_map (fun a ha => ha.normal _) h.authority, ?_,
    forall_mem_map (fun _ => verbatim_plainEscapes) h.query,
    forall_mem_map (fun _ => verbatim_plainEscapes) h.fragment⟩
  rw [Uri.normal]
  dsimp only
  split_ifs
  · exact guardPath_verbatim _ (plainPath_verbatim hPath)
  · exact hPath

theorem follow_verbatim {base u : Uri} {reference : List Char} (hBase : base.Verbatim)
    (h : Text.Verbatim reference) (hr : base.follow reference = .ok u) : u.Verbatim := by
  unfold follow at hr
  split_ifs at hr
  · cases hr
    exact hBase
  · split at hr
    next => cases hr
    next ref hRead =>
      split at hr
      next => cases hr
      next target hResolve =>
        cases hr
        exact (resolve_verbatim hBase (read_verbatim h hRead) hResolve).normal

/-! ## Texts -/

theorem Authority.Verbatim.toChars {a : Authority} (h : a.Verbatim) : Text.Verbatim a.toChars := by
  have hHost : Text.Verbatim a.host.toChars := by
    have hOwn := h.host
    cases hHost : a.host with
    | name text =>
      rw [hHost] at hOwn
      exact hOwn
    | ipv6 groups =>
      have hText := Address.verbatim_ipv6Text groups
      simp [Host.toChars, hText]
    | future text =>
      rw [hHost] at hOwn
      have hText : Text.Verbatim text := hOwn
      simp [Host.toChars, hText]
  rw [Authority.toChars, verbatim_append, verbatim_append]
  refine ⟨⟨?_, hHost⟩, ?_⟩
  · cases hUser : a.user with
    | none => exact verbatim_nil
    | some user => simpa using h.user user hUser
  · cases hPort : a.port with
    | none => exact verbatim_nil
    | some port => simpa using h.port port hPort

theorem Verbatim.toChars {u : Uri} (h : u.Verbatim) : Text.Verbatim u.toChars := by
  rw [Uri.toChars, verbatim_append, verbatim_append, verbatim_append, verbatim_append]
  refine ⟨⟨⟨⟨?_, ?_⟩, h.path⟩, ?_⟩, ?_⟩
  · cases hScheme : u.scheme with
    | none => exact verbatim_nil
    | some scheme => simpa using h.scheme scheme hScheme
  · cases hAuthority : u.authority with
    | none => exact verbatim_nil
    | some a => simpa using (h.authority a hAuthority).toChars
  · cases hQuery : u.query with
    | none => exact verbatim_nil
    | some query => simpa using h.query query hQuery
  · cases hFragment : u.fragment with
    | none => exact verbatim_nil
    | some fragment => simpa using h.fragment fragment hFragment

theorem Verbatim.unbroken_text {u : Uri} (h : u.Verbatim) : Unbroken u.text.toList := by
  rw [text, String.toList_ofList]
  exact h.toChars.1

theorem Verbatim.withoutFragment {u : Uri} (h : u.Verbatim) : u.withoutFragment.Verbatim :=
  ⟨h.scheme, h.authority, h.path, h.query, nofun⟩

theorem unnamed_verbatim : unnamed.Verbatim := by
  refine ⟨forall_mem_some ?_, forall_mem_some ⟨nofun, verbatim_nil, nofun⟩, ?_, nofun, nofun⟩
  · decide
  · decide

end Uri

end SchemaContract
