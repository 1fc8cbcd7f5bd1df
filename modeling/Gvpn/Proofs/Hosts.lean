import Gvpn.Data.Table
import Gvpn.Proxy.Routing
import Mathlib.Data.Finset.Max

/-! How hosts are compared with the names a user lists. -/

namespace Gvpn

open List

theorem isDotAnchoredBytes_eq (host entry : Text) :
    isDotAnchoredBytes host entry = isDotAnchoredMatch host entry := by
  rw [Bool.eq_iff_iff]
  simp only [isDotAnchoredBytes, isDotAnchoredMatch, Bool.or_eq_true, Bool.and_eq_true,
    decide_eq_true_eq, isSuffixOf_iff_suffix]
  refine or_congr_right ?_
  constructor
  · rintro ⟨⟨longer, front, whole⟩, dot⟩
    rcases eq_nil_or_concat front with rfl | ⟨start, byte, rfl⟩
    · simp [← whole] at longer
    · rw [concat_eq_append, append_assoc, singleton_append] at whole
      have here : (toUtf8 host).length - (toUtf8 entry).length - 1 = start.length := by
        rw [← whole, length_append, length_cons]
        omega
      rw [here, ← whole, getElem?_append_right (Nat.le_refl _), Nat.sub_self,
        getElem?_cons_zero, Option.some.injEq] at dot
      subst dot
      have ascii : '.'.toNat < 128 := by decide
      obtain ⟨left, right, hostIs, -, rightIs⟩ := exists_of_toUtf8_eq_append ascii whole.symm
      rw [toUtf8_injective rightIs] at hostIs
      exact ⟨left, hostIs.symm⟩
  · rintro ⟨left, rfl⟩
    have dotted : toUtf8 ('.' :: entry) = 46 :: toUtf8 entry := toUtf8_cons '.' entry
    rw [toUtf8_append, dotted]
    refine ⟨⟨?_, toUtf8 left ++ [46], by simp⟩, ?_⟩
    · simp only [length_append, length_cons]
      omega
    · have here : (toUtf8 left ++ 46 :: toUtf8 entry).length - (toUtf8 entry).length - 1 =
          (toUtf8 left).length := by
        simp only [length_append, length_cons]
        omega
      rw [here, getElem?_append_right (Nat.le_refl _), Nat.sub_self, getElem?_cons_zero]

theorem matchFrontingGroupBytes_eq (host : Text) (groups : List FrontingGroup) :
    matchFrontingGroupBytes host groups = matchFrontingGroup host groups := by
  have compared : isDotAnchoredBytes (plainHost host) = isDotAnchoredMatch (plainHost host) :=
    funext (isDotAnchoredBytes_eq (plainHost host))
  unfold matchFrontingGroupBytes matchFrontingGroup
  rw [compared]
  by_cases none_ : groups = []
  · simp [none_]
  · simp [none_]

theorem dot_no_letter :
    ¬ (65 ≤ '.'.toNat ∧ '.'.toNat ≤ 90) ∧ ¬ (97 ≤ '.'.toNat ∧ '.'.toNat ≤ 122) := by decide

theorem getLast?_plainEntry (entry : Text) : (plainEntry entry).getLast? ≠ some '.' := by
  intro ends
  rw [plainEntry, lower_trimEndMatches dot_no_letter] at ends
  have kept := kept_of_getLast?_trimEndMatches ends
  simp at kept

theorem plainHost_of_suffix {entry part : Text} (ends : part <:+ plainEntry entry) (some_ : part ≠ []) :
    plainHost part = part := by
  obtain ⟨front, whole⟩ := ends
  have small : lower part = part := by
    have all : lower (front ++ part) = front ++ part := by rw [whole, plainEntry, lower_lower]
    rw [lower, map_append] at all
    exact (append_inj all (by simp)).2
  rw [plainHost, small]
  refine trimEndMatches_of_getLast? ?_
  intro last ends
  have notDot := getLast?_plainEntry entry
  rw [← whole, getLast?_append_of_ne_nil _ some_, ends] at notDot
  simpa using notDot

theorem isSome_matchFrontingGroupBytes (name ip sni entry host : Text) :
    (matchFrontingGroupBytes host [⟨name, ip, sni, [entry]⟩]).isSome =
      (plainHost host ≠ [] && plainEntry entry ≠ [] &&
        isDotAnchoredMatch (plainHost host) (plainEntry entry)) := by
  rw [matchFrontingGroupBytes_eq]
  unfold matchFrontingGroup
  by_cases nameless : plainHost host = []
  · simp [nameless]
  · by_cases blank : plainEntry entry = []
    · simp [nameless, blank, FrontingGroup.domainsNormalized]
    · cases matched : isDotAnchoredMatch (plainHost host) (plainEntry entry) <;>
        simp [nameless, blank, matched, FrontingGroup.domainsNormalized]

theorem isDotAnchoredMatch_nil {entry : Text} (some_ : entry ≠ []) :
    isDotAnchoredMatch [] entry = false := by
  have other : ¬ [] = entry := fun same => some_ same.symm
  simp [isDotAnchoredMatch, other]

/--
A fronting group with one entry has the hosts of that entry of the resolver list, exactly if the
trimmed entry does not start with a dot.
-/
theorem fronting_matches_like_doh_iff (name ip sni entry : Text) :
    (∀ host, (matchFrontingGroupBytes host [⟨name, ip, sni, [entry]⟩]).isSome =
        hostMatchesDohEntry (plainHost host) entry) ↔
      (plainEntry entry).head? ≠ some '.' := by
  constructor
  · intro agree opens
    obtain ⟨rest, entryIs⟩ : ∃ rest, plainEntry entry = '.' :: rest := by
      cases parts : plainEntry entry with
      | nil => simp [parts] at opens
      | cons first rest =>
        rw [parts, head?_cons, Option.some.injEq] at opens
        exact ⟨rest, by rw [opens]⟩
    have some_ : rest ≠ [] := by
      rintro rfl
      exact getLast?_plainEntry entry (by simp [entryIs])
    have ends : rest <:+ plainEntry entry := ⟨['.'], by rw [entryIs]; rfl⟩
    have whole := plainHost_of_suffix ends some_
    have same := agree rest
    have shorter : isDotAnchoredMatch rest ('.' :: rest) = false := by
      simp only [isDotAnchoredMatch, Bool.or_eq_false_iff, decide_eq_false_iff_not]
      refine ⟨fun equal => ?_, ?_⟩
      · have lengths := congrArg List.length equal
        simp at lengths
      · rw [← Bool.not_eq_true, isSuffixOf_iff_suffix]
        intro ends
        have lengths := ends.length_le
        simp at lengths
    rw [isSome_matchFrontingGroupBytes, whole, entryIs, shorter] at same
    simp [hostMatchesDohEntry, entryIs, some_, isDotAnchoredMatch] at same
  · intro undotted host
    rw [isSome_matchFrontingGroupBytes]
    have bare : hostMatchesDohEntry (plainHost host) entry =
        (plainEntry entry ≠ [] && isDotAnchoredMatch (plainHost host) (plainEntry entry)) := by
      unfold hostMatchesDohEntry
      split
      · rename_i rest entryIs
        rw [entryIs] at undotted
        simp at undotted
      · rfl
    rw [bare]
    by_cases nameless : plainHost host = []
    · -- An empty host matches nothing, on either side.
      by_cases blank : plainEntry entry = []
      · simp [blank]
      · simp [nameless, isDotAnchoredMatch_nil blank]
    · simp [nameless]

theorem dotted_entry_is_no_front :
    (matchFrontingGroupBytes (lit "example.com")
        [⟨lit "edge", lit "192.0.2.1", lit "front.example", [lit ".example.com"]⟩]).isSome = false ∧
      hostMatchesDohEntry (plainHost (lit "example.com")) (lit ".example.com") = true := by
  decide +kernel

theorem splitOn_free {text : Text} (free : '.' ∉ text) : text.splitOn '.' = [text] := by
  refine splitOnP_eq_singleton ?_
  intro c member
  simp only [beq_eq_false_iff_ne]
  rintro rfl
  exact free member

theorem parentHosts_free {host : Text} (free : '.' ∉ host) :
    parentHosts (host.splitOn '.') = [] := by
  rw [splitOn_free free, parentHosts]

theorem parentHosts_append {front : Text} (free : '.' ∉ front) (back : Text) :
    parentHosts ((front ++ '.' :: back).splitOn '.') = back :: parentHosts (back.splitOn '.') := by
  have parts : (front ++ '.' :: back).splitOn '.' = front :: back.splitOn '.' := by
    rw [List.splitOn, splitOnP_append_cons _ _ (by simp)]
    change front.splitOn '.' ++ back.splitOn '.' = _
    rw [splitOn_free free, singleton_append]
  rw [parts]
  cases others : back.splitOn '.' with
  | nil => exact absurd others (splitOnP_ne_nil _ _)
  | cons second rest =>
    rw [parentHosts, ← others, intercalate_splitOn]
    simp

theorem dot_suffix_iff {front : Text} (free : '.' ∉ front) {back name : Text} :
    '.' :: name <:+ front ++ '.' :: back ↔ name = back ∨ '.' :: name <:+ back := by
  constructor
  · rintro ⟨start, whole⟩
    rcases List.append_eq_append_iff.mp whole with ⟨more, frontIs, restIs⟩ | ⟨more, startIs, restIs⟩
    · -- The dot cannot lie in front of the first one.
      cases more with
      | nil => exact .inl (by simpa using restIs)
      | cons c others =>
        rw [cons_append, cons.injEq] at restIs
        rw [frontIs, ← restIs.1] at free
        simp at free
    · cases more with
      | nil => exact .inl (by simpa using restIs.symm)
      | cons c others =>
        rw [cons_append, cons.injEq] at restIs
        exact .inr ⟨others, restIs.2.symm⟩
  · rintro (rfl | ends)
    · exact suffix_append _ _
    · exact ends.trans ((suffix_cons '.' back).trans (suffix_append _ _))

theorem dot_induction {motive : Text → Prop} (free : ∀ host, '.' ∉ host → motive host)
    (dotted : ∀ front back, '.' ∉ front → motive back → motive (front ++ '.' :: back))
    (host : Text) : motive host := by
  induction length : host.length using Nat.strong_induction_on generalizing host with
  | _ size ih =>
    by_cases member : '.' ∈ host
    · obtain ⟨front, back, rfl, absent⟩ := eq_append_cons_of_mem member
      refine dotted front back absent (ih back.length ?_ back rfl)
      rw [length_append, length_cons] at length
      omega
    · exact free host member

theorem mem_parentHosts {host name : Text} :
    name ∈ parentHosts (host.splitOn '.') ↔ '.' :: name <:+ host := by
  induction host using dot_induction with
  | free host free =>
    rw [parentHosts_free free]
    refine iff_of_false (by simp) ?_
    intro ends
    exact free (ends.subset (by simp))
  | dotted front back free ih =>
    rw [parentHosts_append free, dot_suffix_iff free, mem_cons, ih]

theorem parentHosts_shorter (host : Text) :
    (host :: parentHosts (host.splitOn '.')).Pairwise fun longer shorter =>
      shorter.length < longer.length := by
  induction host using dot_induction with
  | free host free => simp [parentHosts_free free]
  | dotted front back free ih =>
    rw [parentHosts_append free]
    refine List.pairwise_cons.mpr ⟨?_, ih⟩
    intro name member
    have first : back.length < (front ++ '.' :: back).length := by
      rw [length_append, length_cons]
      omega
    rcases List.mem_cons.mp member with rfl | later
    · exact first
    · have further := (List.pairwise_cons.mp ih).1 name later
      omega

def LiesUnder (host key : Text) : Prop :=
  lower (trimEndMatches (· = '.') host) = lower key ∨
    '.' :: lower key <:+ lower (trimEndMatches (· = '.') host)

structure IsLongest (hosts : List (Text × Text)) (host : Text) (entry : Text × Text) : Prop where
  listed : entry ∈ hosts
  fits : LiesUnder host entry.1
  longest : ∀ other ∈ hosts, LiesUnder host other.1 → other.1.length ≤ entry.1.length

structure OverrideLaw (hosts : List (Text × Text)) (host : Text) : Prop where
  found : ∀ entry, IsLongest hosts host entry → hostsOverride hosts host = some entry.2
  missing : hostsOverride hosts host = none ↔ ∀ entry ∈ hosts, ¬ LiesUnder host entry.1

def triedNames (host : Text) : List Text :=
  plainHost host :: parentHosts ((plainHost host).splitOn '.')

section

variable {hosts : List (Text × Text)} {host : Text}

theorem liesUnder_iff {key : Text} : LiesUnder host key ↔ lower key ∈ triedNames host := by
  rw [LiesUnder, lower_trimEndMatches dot_no_letter, triedNames, mem_cons, mem_parentHosts,
    plainHost, eq_comm]

theorem lower_of_tried {name : Text} (tried : name ∈ triedNames host) : lower name = name := by
  have whole : lower (plainHost host) = plainHost host := by
    rw [plainHost, lower_trimEndMatches dot_no_letter, lower_lower]
  rw [triedNames, mem_cons, mem_parentHosts] at tried
  rcases tried with rfl | ⟨front, hostIs⟩
  · exact whole
  · rw [← hostIs, lower, map_append, map_cons] at whole
    have tails := (append_inj whole (by simp)).2
    exact (cons.inj tails).2

variable {entry : Text × Text}

theorem lookup_of_mem (distinct : (hosts.map fun entry => lower entry.1).Nodup)
    (listed : entry ∈ hosts) : hosts.lookup entry.1 = some entry.2 := by
  obtain ⟨front, back, rfl⟩ := append_of_mem listed
  refine List.lookup_eq_some_iff.mpr ⟨front, back, rfl, ?_⟩
  intro other member
  rw [map_append, nodup_append] at distinct
  have apart := distinct.2.2 (lower other.1) (mem_map_of_mem member) (lower entry.1)
    (by simp)
  simp only [bne_iff_ne, ne_eq]
  intro same
  exact apart (by rw [same])

theorem exists_isLongest (listed : entry ∈ hosts)
    (fits : LiesUnder host entry.1) : ∃ longest, IsLongest hosts host longest := by
  classical
  have some_ : (hosts.toFinset.filter fun entry => LiesUnder host entry.1).Nonempty :=
    ⟨entry, by simp [listed, fits]⟩
  obtain ⟨longest, member, most⟩ := Finset.exists_max_image _ (fun entry => entry.1.length) some_
  simp only [Finset.mem_filter, mem_toFinset] at member most
  exact ⟨longest, member.1, member.2, fun other listed fits => most other ⟨listed, fits⟩⟩

theorem hostsOverride_longest (distinct : (hosts.map fun entry => lower entry.1).Nodup)
    (longest : IsLongest hosts host entry)
    (small : lower entry.1 = entry.1) : hostsOverride hosts host = some entry.2 := by
  have tried := liesUnder_iff.mp longest.fits
  rw [small] at tried
  obtain ⟨front, back, names⟩ := append_of_mem tried
  refine List.findSome?_eq_some_iff.mpr
    ⟨front, entry.1, back, names, lookup_of_mem distinct longest.listed, ?_⟩
  intro name earlier
  cases found : hosts.lookup name with
  | none => rfl
  | some value =>
    have inside : name ∈ triedNames host := by
      rw [names]
      exact mem_append_left _ earlier
    have fits : LiesUnder host name := by
      rw [liesUnder_iff, lower_of_tried inside]
      exact inside
    have bounded : name.length ≤ entry.1.length :=
      longest.longest _ (mem_of_lookup_eq_some found) fits
    have order : (triedNames host).Pairwise fun longer shorter => shorter.length < longer.length :=
      parentHosts_shorter (plainHost host)
    rw [names, pairwise_append] at order
    have shorter := order.2.2 name earlier entry.1 (by simp)
    omega

theorem hostsOverride_capital (capital : lower entry.1 ≠ entry.1) :
    hostsOverride hosts host = hostsOverride (hosts.filter (· ≠ entry)) host := by
  have same : ∀ names ⊆ triedNames host,
      names.findSome? (fun name => hosts.lookup name) =
        names.findSome? fun name => (hosts.filter (· ≠ entry)).lookup name := by
    intro names tried
    induction names with
    | nil => rfl
    | cons name others ih =>
      have small := lower_of_tried (tried mem_cons_self)
      have kept : ∀ value, decide ((name, value) ≠ entry) = true := by
        intro value
        apply decide_eq_true
        rintro rfl
        exact capital small
      rw [findSome?_cons, findSome?_cons, lookup_filter_of_kept kept,
        ih fun _ later => tried (mem_cons_of_mem _ later)]
  exact same (triedNames host) fun _ member => member

/--
The address of a host is that of the longest name it lies under, if that name has no capital letter:
only the host is taken in lower case.
-/
theorem hosts_override_law (hosts : List (Text × Text))
    (distinct : (hosts.map fun entry => lower entry.1).Nodup) (host : Text) :
    ((∀ entry, IsLongest hosts host entry → lower entry.1 = entry.1) → OverrideLaw hosts host) ∧
      ∀ entry, IsLongest hosts host entry → lower entry.1 ≠ entry.1 →
        hostsOverride hosts host = hostsOverride (hosts.filter (· ≠ entry)) host := by
  refine ⟨?_, fun entry _ capital => hostsOverride_capital capital⟩
  intro small
  have found : ∀ entry, IsLongest hosts host entry → hostsOverride hosts host = some entry.2 :=
    fun entry longest => hostsOverride_longest distinct longest (small entry longest)
  refine ⟨found, ?_⟩
  constructor
  · intro nothing entry listed fits
    obtain ⟨longest, isLongest⟩ := exists_isLongest listed fits
    have there := found longest isLongest
    simp [nothing] at there
  · intro none_
    refine List.findSome?_eq_none_iff.mpr ?_
    intro name tried
    cases looked : hosts.lookup name with
    | none => rfl
    | some value =>
      have fits : LiesUnder host name := by
        rw [liesUnder_iff, lower_of_tried tried]
        exact tried
      exact absurd fits (none_ _ (mem_of_lookup_eq_some looked))

end

def nestedHosts : List (Text × Text) :=
  [(lit "example.com", lit "192.0.2.1"), (lit "api.example.com", lit "192.0.2.2")]

theorem hosts_override_law_nested :
    (nestedHosts.map fun entry => lower entry.1).Nodup ∧
      OverrideLaw nestedHosts (lit "V2.Api.Example.com.") ∧
      hostsOverride nestedHosts (lit "V2.Api.Example.com.") = some (lit "192.0.2.2") := by
  have distinct : (nestedHosts.map fun entry => lower entry.1).Nodup := by decide +kernel
  have small : ∀ entry ∈ nestedHosts, lower entry.1 = entry.1 := by decide +kernel
  refine ⟨distinct, ?_, by decide +kernel⟩
  exact (hosts_override_law nestedHosts distinct _).1 fun entry longest =>
    small entry longest.listed

theorem capital_name_is_passed_over :
    IsLongest [(lit "Example.com", lit "192.0.2.1")] (lit "Example.com")
        (lit "Example.com", lit "192.0.2.1") ∧
      hostsOverride [(lit "Example.com", lit "192.0.2.1")] (lit "Example.com") = none := by
  refine ⟨⟨by simp, .inl (by decide +kernel), ?_⟩, by decide +kernel⟩
  intro other listed _
  rw [List.mem_singleton.mp listed]

end Gvpn
