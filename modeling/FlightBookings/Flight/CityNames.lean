import FlightBookings.Flight.Activity
import FlightBookings.Store.Like

/-! # The names of cities

No two cities are to have one name. The lookup takes the new name for a pattern,
and an update does not leave out the city that it is about.
-/

namespace FlightBookings.Flight

open Like

/-! ## Tables and requests -/

/-- What the database sees to: ids and names are unique, and a name fits its column. -/
structure Tables.Constrained (t : Tables) : Prop where
  ids : (t.cities.map City.id).Nodup
  names : (t.cities.map City.name).Nodup
  lengths : ∀ city ∈ t.cities, city.name.length ≤ 100

/-- What `IsNotEmpty` and `MaxLength(100)` ask of a name. -/
structure Acceptable (name : String) : Prop where
  nonempty : name ≠ ""
  length : name.length ≤ 100

def TextRules.of (collation : Collation) (toUpperCase : String → String) : TextRules where
  ilike := collation.ilike
  toUpperCase := toUpperCase

/-- The call throws a `ConflictException`. -/
def Conflicts {α : Type} (result : Result α) : Prop :=
  ∃ e, result.1 = .error e ∧ e.kind = .conflict

/-! ## Which calls throw -/

section Calls

variable {rules : TextRules} {t : Tables} {id : Int}

theorem not_conflicts_map {α β : Type} {f : α → β} {result : Result α} (h : ¬Conflicts result) :
    ¬Conflicts (result.1.map f, result.2) := by
  intro hmap
  obtain ⟨e, he, hkind⟩ := hmap
  cases hresult : result.1 with
  | error e' =>
      rw [hresult] at he
      cases he
      exact h ⟨e, hresult, hkind⟩
  | ok a =>
      rw [hresult] at he
      cases he

theorem CityRepository.create_not_conflicts {data : CreateCityDto} :
    ¬Conflicts (CityRepository.create data t) := by
  intro h
  obtain ⟨e, he, hkind⟩ := h
  unfold CityRepository.create at he
  split at he
  · cases he
    cases hkind
  · dsimp only at he
    split at he
    · cases he
      cases hkind
    · cases he

theorem CityRepository.update_not_conflicts {data : UpdateCityDto} :
    ¬Conflicts (CityRepository.update id data t) := by
  intro h
  obtain ⟨e, he, hkind⟩ := h
  unfold CityRepository.update at he
  split at he
  · cases he
    cases hkind
  · split at he
    · cases he
      cases hkind
    · split at he
      · cases he
        cases hkind
      · cases he

theorem CityRepository.findByName_isSome {name : String} :
    (CityRepository.findByName rules name t).isSome = true ↔
      ∃ city ∈ t.cities, rules.ilike city.name name = true := by
  rw [CityRepository.findByName, List.find?_isSome]

theorem CityService.create_conflicts {dto : CreateCityDto} :
    Conflicts (CityService.create rules dto t) ↔
      ∃ city ∈ t.cities, rules.ilike city.name dto.name = true := by
  rw [← CityRepository.findByName_isSome]
  unfold CityService.create
  split
  · rename_i hfound
    exact ⟨fun _ => hfound, fun _ => ⟨_, rfl, rfl⟩⟩
  · rename_i hfound
    refine ⟨fun h => ?_, fun h => absurd h hfound⟩
    split at h
    · obtain ⟨e, he, hkind⟩ := h
      cases he
      cases hkind
    · split at h
      · obtain ⟨e, he, hkind⟩ := h
        cases he
        cases hkind
      · exact absurd h (not_conflicts_map CityRepository.create_not_conflicts)

theorem CityService.update_conflicts {dto : UpdateCityDto} :
    Conflicts (CityService.update rules id dto t) ↔
      ∃ existing, t.city? id = some existing ∧ ∃ name, renamed dto existing = some name ∧
        ∃ city ∈ t.cities, rules.ilike city.name name = true := by
  unfold CityService.update
  split
  · rename_i hnone
    constructor
    · intro h
      obtain ⟨e, he, hkind⟩ := h
      cases he
      cases hkind
    · intro h
      obtain ⟨existing, hexisting, _⟩ := h
      rw [hnone] at hexisting
      cases hexisting
  · rename_i existing hexisting
    have hfound : ((renamed dto existing).bind fun name =>
        CityRepository.findByName rules name t).isSome = true ↔
          ∃ name, renamed dto existing = some name ∧
            ∃ city ∈ t.cities, rules.ilike city.name name = true := by
      cases renamed dto existing with
      | none => simp
      | some name => simp [CityRepository.findByName_isSome]
    split
    · rename_i h
      exact ⟨fun _ => ⟨existing, hexisting, hfound.mp h⟩, fun _ => ⟨_, rfl, rfl⟩⟩
    · rename_i hno
      constructor
      · intro h
        split at h
        · obtain ⟨e, he, hkind⟩ := h
          cases he
          cases hkind
        · split at h
          · obtain ⟨e, he, hkind⟩ := h
            cases he
            cases hkind
          · exact absurd h (not_conflicts_map CityRepository.update_not_conflicts)
      · intro h
        obtain ⟨existing', hexisting', h⟩ := h
        rw [hexisting, Option.some.injEq] at hexisting'
        subst hexisting'
        exact absurd (hfound.mpr h) hno

end Calls

/-! ## Exact conflicts -/

section Exact

variable {collation : Collation} {toUpperCase : String → String} {id : Int} {a b : String}
  {present : Option String}

/-- In every table, a creation is refused exactly where a city has the name. -/
def CreateExact (collation : Collation) (toUpperCase : String → String) (dto : CreateCityDto) :
    Prop :=
  ∀ t, t.Constrained →
    (Conflicts (CityService.create (.of collation toUpperCase) dto t) ↔
      ∃ city ∈ t.cities, collation.Same city.name dto.name)

/-- In every table in which the city has the present name, or in which there is no city with the id,
an update is refused exactly where another city has the new name. -/
def UpdateExact (collation : Collation) (toUpperCase : String → String) (id : Int)
    (present : Option String) (dto : UpdateCityDto) : Prop :=
  ∀ t, t.Constrained → (t.city? id).map City.name = present →
    (Conflicts (CityService.update (.of collation toUpperCase) id dto t) ↔
      ∃ name, dto.name = .value name ∧
        ∃ city ∈ t.cities, city.id ≠ id ∧ collation.Same city.name name)

/-- The new name is the present one and can be written in one way only, or it is plain and differs from
the present one by more than case. -/
def Distinguishes (collation : Collation) (present : Option String) : Field String → Prop
  | .value name => ∃ old, present = some old ∧
      ((name = old ∧ ∀ other, collation.Same other name → other = name) ∨
        (Collation.Plain name ∧ ¬collation.Same name old))
  | _ => True

def cityNamed (id : Int) (name : String) : City where
  id := id
  name := name
  country := "Freedonia"
  countryCode := none
  timezone := none
  latitude := none
  longitude := none
  active := true

def tablesOf (cities : List City) : Tables := { Tables.empty with cities := cities }

theorem constrained_single (id : Int) (h : a.length ≤ 100) : (tablesOf [cityNamed id a]).Constrained where
  ids := List.nodup_singleton _
  names := List.nodup_singleton _
  lengths := by simpa [tablesOf, cityNamed] using h

theorem constrained_pair (id : Int) (hne : a ≠ b) (ha : a.length ≤ 100) (hb : b.length ≤ 100) :
    (tablesOf [cityNamed id a, cityNamed (id + 1) b]).Constrained where
  ids := by
    have hne : id ≠ id + 1 := by omega
    simpa [tablesOf, cityNamed] using hne
  names := by simpa [tablesOf, cityNamed] using hne
  lengths := by simpa [tablesOf, cityNamed] using ⟨ha, hb⟩

theorem createExact_iff {dto : CreateCityDto} (hdto : Acceptable dto.name) :
    CreateExact collation toUpperCase dto ↔ Collation.Plain dto.name := by
  constructor
  · intro h
    by_contra hplain
    rcases Collation.ilike_of_not_plain collation hplain with
      ⟨text, hlength, hmatches, hother⟩ | hnone
    · have hexact := h _ (constrained_single 1 (hlength.trans hdto.length))
      rw [CityService.create_conflicts] at hexact
      obtain ⟨city, hmem, hsame⟩ := hexact.mp ⟨_, List.mem_singleton.mpr rfl, hmatches⟩
      rw [List.mem_singleton.mp hmem] at hsame
      exact hother hsame
    · have hexact := h _ (constrained_single 1 hdto.length)
      rw [CityService.create_conflicts] at hexact
      obtain ⟨city, _, hmatches⟩ := hexact.mpr ⟨_, List.mem_singleton.mpr rfl, rfl⟩
      exact Bool.false_ne_true ((hnone city.name).symm.trans hmatches)
  · intro hplain t _
    rw [CityService.create_conflicts]
    exact exists_congr fun city => and_congr_right fun _ => Collation.ilike_plain hplain

theorem CityService.renamed_eq_some {dto : UpdateCityDto} {existing : City} {name : String} :
    CityService.renamed dto existing = some name ↔
      dto.name = .value name ∧ name ≠ "" ∧ name ≠ existing.name := by
  unfold CityService.renamed
  split
  · rename_i name' hname
    rw [hname, Field.value.injEq]
    split
    · rename_i hne
      constructor
      · intro h
        cases h
        exact ⟨rfl, hne⟩
      · intro h
        rw [h.1]
    · rename_i hno
      constructor
      · intro h
        cases h
      · intro h
        exact absurd (h.1 ▸ h.2) hno
  · rename_i hno
    constructor
    · intro h
      cases h
    · intro h
      exact absurd h.1 (hno name)

theorem update_conflicts_of_city {rules : TextRules} {dto : UpdateCityDto} {t : Tables}
    {existing : City} {name : String} (hcity : t.city? id = some existing)
    (hname : dto.name = .value name) (hempty : name ≠ "") :
    Conflicts (CityService.update rules id dto t) ↔
      name ≠ existing.name ∧ ∃ city ∈ t.cities, rules.ilike city.name name = true := by
  rw [CityService.update_conflicts]
  constructor
  · intro h
    obtain ⟨existing', hexisting', name', hrenamed, h⟩ := h
    rw [hcity, Option.some.injEq] at hexisting'
    subst hexisting'
    obtain ⟨hname', _, hne⟩ := CityService.renamed_eq_some.mp hrenamed
    rw [hname, Field.value.injEq] at hname'
    subst hname'
    exact ⟨hne, h⟩
  · intro h
    exact ⟨existing, hcity, name, CityService.renamed_eq_some.mpr ⟨hname, hempty, h.1⟩, h.2⟩

theorem update_not_conflicts_of_no_name {rules : TextRules} {dto : UpdateCityDto} {t : Tables}
    (hname : ∀ name, dto.name ≠ .value name) : ¬Conflicts (CityService.update rules id dto t) := by
  rw [CityService.update_conflicts]
  intro h
  obtain ⟨existing, _, name, hrenamed, _⟩ := h
  exact hname name (CityService.renamed_eq_some.mp hrenamed).1

section Named

variable {dto : UpdateCityDto} {name old : String}

/-- In the table of the city alone, an update is exact only where the name is kept, or the pattern does
not meet the present name. -/
theorem UpdateExact.alone (h : UpdateExact collation toUpperCase id (some old) dto)
    (hname : dto.name = .value name) (hempty : name ≠ "") (hold : old.length ≤ 100) :
    name = old ∨ collation.ilike old name = false := by
  by_contra hno
  rw [not_or, Bool.not_eq_false] at hno
  have hcity : (tablesOf [cityNamed id old]).city? id = some (cityNamed id old) := by
    simp [tablesOf, cityNamed, Table.find]
  have hexact := h _ (constrained_single id hold) (by rw [hcity]; rfl)
  rw [update_conflicts_of_city hcity hname hempty] at hexact
  obtain ⟨_, _, city, hmem, hne, _⟩ :=
    hexact.mp ⟨hno.1, _, List.mem_singleton.mpr rfl, hno.2⟩
  rw [List.mem_singleton.mp hmem] at hne
  exact hne rfl

/-- In the table of the city and another one, an update that changes the name is exact only where the
pattern means the other name. -/
theorem UpdateExact.beside (h : UpdateExact collation toUpperCase id (some old) dto)
    (hname : dto.name = .value name) (hempty : name ≠ "") (hold : old.length ≤ 100)
    {other : String} (hother : other.length ≤ 100) (hne : other ≠ old) :
    collation.Same other name ↔
      name ≠ old ∧ (collation.ilike old name = true ∨ collation.ilike other name = true) := by
  have hcity : (tablesOf [cityNamed id old, cityNamed (id + 1) other]).city? id =
      some (cityNamed id old) := by
    simp [tablesOf, cityNamed, Table.find]
  have hexact := h _ (constrained_pair id hne.symm hold hother) (by rw [hcity]; rfl)
  rw [update_conflicts_of_city hcity hname hempty, hname] at hexact
  have hid : id + 1 ≠ id := by omega
  simpa [tablesOf, cityNamed, TextRules.of, hid] using hexact.symm

theorem UpdateExact.distinguishes (h : UpdateExact collation toUpperCase id (some old) dto)
    (hname : dto.name = .value name) (hacceptable : Acceptable name) (hold : old.length ≤ 100) :
    (name = old ∧ ∀ other, collation.Same other name → other = name) ∨
      (Collation.Plain name ∧ ¬collation.Same name old) := by
  by_cases hkept : name = old
  · refine .inl ⟨hkept, fun other hsame => ?_⟩
    by_contra hne
    have hlength : other.length ≤ 100 := hsame.length_eq.trans_le hacceptable.length
    have hbeside := h.beside hname hacceptable.nonempty hold hlength (hkept ▸ hne)
    exact (hbeside.mp hsame).1 hkept
  · have hown : collation.ilike old name = false :=
      (h.alone hname hacceptable.nonempty hold).resolve_left hkept
    have hplain : Collation.Plain name := by
      by_contra hspecial
      rcases Collation.ilike_of_not_plain collation hspecial with
        ⟨text, hlength, hmatches, hother⟩ | hnone
      · have hne : text ≠ old := by
          intro heq
          rw [heq, hown] at hmatches
          cases hmatches
        have hbeside := h.beside hname hacceptable.nonempty hold
          (hlength.trans hacceptable.length) hne
        exact hother (hbeside.mpr ⟨hkept, .inr hmatches⟩)
      · have hbeside := h.beside hname hacceptable.nonempty hold hacceptable.length hkept
        rcases (hbeside.mp rfl).2 with hmatches | hmatches
        · rw [hown] at hmatches
          cases hmatches
        · rw [hnone] at hmatches
          cases hmatches
    refine .inr ⟨hplain, fun hsame => ?_⟩
    have hmatches : collation.ilike old name = true :=
      (Collation.ilike_plain hplain).mpr hsame.symm
    rw [hown] at hmatches
    cases hmatches

theorem updateExact_of_distinguishes (hname : dto.name = .value name) (hempty : name ≠ "")
    (h : (name = old ∧ ∀ other, collation.Same other name → other = name) ∨
      (Collation.Plain name ∧ ¬collation.Same name old)) :
    UpdateExact collation toUpperCase id (some old) dto := by
  intro t ht hpresent
  obtain ⟨existing, hcity, rfl⟩ := Option.map_eq_some_iff.mp hpresent
  obtain ⟨hmem, rfl⟩ := Table.mem_of_find hcity
  rw [update_conflicts_of_city hcity hname hempty, hname]
  rcases h with ⟨hkept, hunique⟩ | ⟨hplain, hdiffers⟩
  · constructor
    · intro h
      exact absurd hkept h.1
    · intro h
      obtain ⟨name', hname', city, hcity', hne, hsame⟩ := h
      rw [Field.value.injEq] at hname'
      subst hname'
      have hsameName : city.name = existing.name := (hunique _ hsame).trans hkept
      rw [List.inj_on_of_nodup_map ht.names hcity' hmem hsameName] at hne
      exact absurd rfl hne
  · constructor
    · intro h
      obtain ⟨_, city, hcity', hmatches⟩ := h
      have hsame := (Collation.ilike_plain hplain).mp hmatches
      refine ⟨name, rfl, city, hcity', fun hid => hdiffers ?_, hsame⟩
      rw [List.inj_on_of_nodup_map ht.ids hcity' hmem hid] at hsame
      exact hsame.symm
    · intro h
      obtain ⟨name', hname', city, hcity', _, hsame⟩ := h
      rw [Field.value.injEq] at hname'
      subst hname'
      refine ⟨fun heq => hdiffers ?_, city, hcity', (Collation.ilike_plain hplain).mpr hsame⟩
      rw [heq]
      rfl

end Named

theorem updateExact_of_no_name {dto : UpdateCityDto} (hname : ∀ name, dto.name ≠ .value name) :
    UpdateExact collation toUpperCase id present dto := by
  intro t _ _
  rw [iff_false_left (update_not_conflicts_of_no_name hname)]
  intro h
  obtain ⟨name, heq, _⟩ := h
  exact hname name heq

theorem updateExact_iff {dto : UpdateCityDto}
    (hdto : ∀ name, dto.name = .value name → Acceptable name)
    (hpresent : ∀ old, present = some old → old.length ≤ 100) :
    UpdateExact collation toUpperCase id present dto ↔ Distinguishes collation present dto.name := by
  cases hname : dto.name with
  | value name =>
      have hacceptable := hdto name hname
      constructor
      · intro h
        cases present with
        | some old => exact ⟨old, rfl, h.distinguishes hname hacceptable (hpresent old rfl)⟩
        | none =>
            -- the request is refused as one for a city that is not there
            have hid : id + 1 ≠ id := by omega
            have hcity : (tablesOf [cityNamed (id + 1) name]).city? id = none := by
              simp [tablesOf, cityNamed, Table.find, hid]
            have hexact := h _ (constrained_single (id + 1) hacceptable.length) (by rw [hcity]; rfl)
            rw [CityService.update_conflicts, hcity] at hexact
            obtain ⟨existing, hexisting, _⟩ :=
              hexact.mpr ⟨name, hname, _, List.mem_singleton.mpr rfl, hid, rfl⟩
            cases hexisting
      · intro h
        obtain ⟨old, hold, h⟩ := h
        rw [hold]
        exact updateExact_of_distinguishes hname hacceptable.nonempty h
  | undefined =>
      have hnone : ∀ name, dto.name ≠ .value name := by
        intro name heq
        rw [hname] at heq
        cases heq
      exact ⟨fun _ => trivial, fun _ => updateExact_of_no_name hnone⟩
  | null =>
      have hnone : ∀ name, dto.name ≠ .value name := by
        intro name heq
        rw [hname] at heq
        cases heq
      exact ⟨fun _ => trivial, fun _ => updateExact_of_no_name hnone⟩

end Exact

/-! ## Creations and updates -/

/-- A creation is refused exactly for the names that are taken only where its name is plain, and an
update only where its name is plain and new. -/
theorem city_conflicts_exact (collation : Collation) (toUpperCase : String → String)
    {created : CreateCityDto} {updated : UpdateCityDto} {id : Int} {present : Option String}
    (hcreated : Acceptable created.name)
    (hupdated : ∀ name, updated.name = .value name → Acceptable name)
    (hpresent : ∀ old, present = some old → old.length ≤ 100) :
    (CreateExact collation toUpperCase created ↔ Collation.Plain created.name) ∧
      (UpdateExact collation toUpperCase id present updated ↔
        Distinguishes collation present updated.name) :=
  ⟨createExact_iff hcreated, updateExact_iff hupdated hpresent⟩

theorem toLower_cases (c : Char) :
    c.toLower = c ∨ 65 ≤ c.toNat ∧ c.toNat ≤ 90 ∧ c.toLower.toNat = c.toNat + 32 := by
  unfold Char.toLower
  split
  · rename_i h
    have hupper : c.val.toNat ≤ 90 := h.2
    refine .inr ⟨h.1, hupper, ?_⟩
    show (c.val + ('a'.val - 'A'.val)).toNat = c.val.toNat + 32
    rw [UInt32.toNat_add]
    have hlt : c.val.toNat + 32 < 2 ^ 32 := by omega
    exact Nat.mod_eq_of_lt hlt
  · exact .inl rfl

/-- The collation that knows the letters of the English alphabet. -/
def asciiCollation : Collation where
  lower := Char.toLower
  special c s hs := by
    rcases toLower_cases c with hkept | ⟨hlow, hhigh, hlower⟩
    · rw [hkept]
    · have hcode : s.toNat = 37 ∨ s.toNat = 95 ∨ s.toNat = 92 := by
        rcases hs with rfl | rfl | rfl
        · exact .inl rfl
        · exact .inr (.inl rfl)
        · exact .inr (.inr rfl)
      constructor
      · rintro rfl
        omega
      · rintro rfl
        omega

def rome : CreateCityDto := { name := "Rome", country := "Italy" }

def toRoma : UpdateCityDto := { name := .value "Roma" }

theorem city_conflicts_exact_rome :
    (CreateExact asciiCollation FlightBookings.toUpperCase rome ↔ Collation.Plain "Rome") ∧
      (UpdateExact asciiCollation FlightBookings.toUpperCase 1 (some "Rome") toRoma ↔
        Distinguishes asciiCollation (some "Rome") (.value "Roma")) := by
  have hname : ∀ name, toRoma.name = .value name → Acceptable name := by
    intro name h
    cases h
    exact ⟨by decide, by decide⟩
  have hpresent : ∀ old, some "Rome" = some old → old.length ≤ 100 := by
    intro old h
    cases h
    decide
  exact city_conflicts_exact asciiCollation FlightBookings.toUpperCase
    (⟨by decide, by decide⟩ : Acceptable rome.name) hname hpresent

/-- An underscore is refused where it stands for a blank, a percent sign where there is any city, and
a city cannot change the case of its own name. -/
theorem patterns_conflict :
    Conflicts (CityService.create (.of asciiCollation FlightBookings.toUpperCase)
        { name := "New_York", country := "USA" } (tablesOf [cityNamed 1 "New York"])) ∧
      (¬∃ city ∈ (tablesOf [cityNamed 1 "New York"]).cities,
        asciiCollation.Same city.name "New_York") ∧
      Conflicts (CityService.update (.of asciiCollation FlightBookings.toUpperCase) 1
        { name := .value "Paris" } (tablesOf [cityNamed 1 "paris"])) ∧
      ¬∃ city ∈ (tablesOf [cityNamed 1 "paris"]).cities,
        city.id ≠ 1 ∧ asciiCollation.Same city.name "Paris" := by
  refine ⟨⟨_, rfl, rfl⟩, by decide, ⟨_, rfl, rfl⟩, by decide⟩

end FlightBookings.Flight
