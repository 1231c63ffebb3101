import FlightBookings.Flight.Activity

/-! # Codes of airports

What the tables of cities and airports keep through every call. An airport is found
by its code in whatever case one asks for it.
-/

namespace FlightBookings.Flight

/-- Ids, names of cities and codes of airports are unique, codes are in capitals, and every airport is
in a city. -/
structure Catalogued (rules : TextRules) (t : Tables) : Prop where
  cityIds : Table.Numbered City.id t.lastCityId t.cities
  names : (t.cities.map City.name).Nodup
  airportIds : Table.Numbered Airport.id t.lastAirportId t.airports
  codes : (t.airports.map Airport.code).Nodup
  capitals : ∀ airport ∈ t.airports, ∃ code, airport.code = rules.toUpperCase code
  placed : ∀ airport ∈ t.airports, (t.city? airport.cityId).isSome

/-- Everything a call can do to the tables. -/
inductive Effect (rules : TextRules) (t : Tables) : Tables → Prop where
  | kept {cityId airportId : Int} (hcity : t.lastCityId ≤ cityId)
      (hairport : t.lastAirportId ≤ airportId) :
      Effect rules t { t with lastCityId := cityId, lastAirportId := airportId }
  | cityAdded (city : City) (hid : city.id = t.lastCityId + 1)
      (hname : ∀ other ∈ t.cities, other.name ≠ city.name) :
      Effect rules t { t with lastCityId := t.lastCityId + 1, cities := t.cities ++ [city] }
  | cityChanged (id : Int) (f : City → City) (hid : ∀ city, city.id = id → (f city).id = id)
      (hname : ∀ city ∈ t.cities, city.id = id → ∀ other ∈ t.cities, other.id ≠ id →
        other.name ≠ (f city).name) :
      Effect rules t { t with cities := Table.modify City.id id f t.cities }
  | airportAdded (airport : Airport) (hid : airport.id = t.lastAirportId + 1)
      (hcode : ∀ other ∈ t.airports, other.code ≠ airport.code)
      (hcapitals : ∃ code, airport.code = rules.toUpperCase code)
      (hplaced : (t.city? airport.cityId).isSome) :
      Effect rules t
        { t with lastAirportId := t.lastAirportId + 1, airports := t.airports ++ [airport] }
  | airportChanged (id : Int) (f : Airport → Airport)
      (hid : ∀ airport, airport.id = id → (f airport).id = id)
      (hcode : ∀ airport ∈ t.airports, airport.id = id → ∀ other ∈ t.airports, other.id ≠ id →
        other.code ≠ (f airport).code)
      (hcapitals : ∀ airport ∈ t.airports, airport.id = id →
        ∃ code, (f airport).code = rules.toUpperCase code)
      (hplaced : ∀ airport ∈ t.airports, airport.id = id → (t.city? (f airport).cityId).isSome) :
      Effect rules t { t with airports := Table.modify Airport.id id f t.airports }

section Effects

variable {rules : TextRules} {t t' : Tables} {id : Int}

theorem catalogued_empty : Catalogued rules .empty where
  cityIds := ⟨List.nodup_nil, fun _ h => absurd h List.not_mem_nil⟩
  names := List.nodup_nil
  airportIds := ⟨List.nodup_nil, fun _ h => absurd h List.not_mem_nil⟩
  codes := List.nodup_nil
  capitals _ h := absurd h List.not_mem_nil
  placed _ h := absurd h List.not_mem_nil

/-- No city is deleted. -/
theorem Effect.city_kept (h : Effect rules t t') (hcity : (t.city? id).isSome) :
    (t'.city? id).isSome := by
  cases h with
  | kept => exact hcity
  | cityAdded city => exact Table.find_isSome_insert hcity
  | cityChanged id' f hid => exact Table.find_isSome_modify hid hcity
  | airportAdded => exact hcity
  | airportChanged => exact hcity

/-- No airport is deleted. -/
theorem Effect.airport_kept (h : Effect rules t t') (hairport : (t.airport? id).isSome) :
    (t'.airport? id).isSome := by
  cases h with
  | kept => exact hairport
  | cityAdded => exact hairport
  | cityChanged => exact hairport
  | airportAdded airport => exact Table.find_isSome_insert hairport
  | airportChanged id' f hid => exact Table.find_isSome_modify hid hairport

theorem Effect.catalogued (heffect : Effect rules t t') (h : Catalogued rules t) :
    Catalogued rules t' := by
  have hplaced : ∀ airport ∈ t.airports, (t'.city? airport.cityId).isSome := fun airport hairport =>
    heffect.city_kept (h.placed airport hairport)
  cases heffect with
  | kept hcity hairport =>
      exact ⟨h.cityIds.mono hcity, h.names, h.airportIds.mono hairport, h.codes, h.capitals, hplaced⟩
  | cityAdded city hid hname =>
      exact ⟨h.cityIds.insert hid, Table.nodup_map_insert h.names hname, h.airportIds, h.codes,
        h.capitals, hplaced⟩
  | cityChanged id f hid hname =>
      exact ⟨h.cityIds.modify hid, Table.nodup_map_modify h.cityIds.nodup h.names hname,
        h.airportIds, h.codes, h.capitals, hplaced⟩
  | airportAdded airport hid hcode hcapitals hnew =>
      constructor
      case cityIds => exact h.cityIds
      case names => exact h.names
      case airportIds => exact h.airportIds.insert hid
      case codes => exact Table.nodup_map_insert h.codes hcode
      case capitals =>
        intro other hother
        rcases List.mem_append.mp hother with hold | hlast
        · exact h.capitals other hold
        · rw [List.mem_singleton.mp hlast]
          exact hcapitals
      case placed =>
        intro other hother
        rcases List.mem_append.mp hother with hold | hlast
        · exact hplaced other hold
        · rw [List.mem_singleton.mp hlast]
          exact hnew
  | airportChanged id f hid hcode hcapitals hmoved =>
      constructor
      case cityIds => exact h.cityIds
      case names => exact h.names
      case airportIds => exact h.airportIds.modify hid
      case codes => exact Table.nodup_map_modify h.airportIds.nodup h.codes hcode
      case capitals =>
        intro other hother
        obtain ⟨airport, hairport, ⟨hkey, rfl⟩ | ⟨-, rfl⟩⟩ := Table.mem_modify.mp hother
        · exact hcapitals airport hairport hkey
        · exact h.capitals other hairport
      case placed =>
        intro other hother
        obtain ⟨airport, hairport, ⟨hkey, rfl⟩ | ⟨-, rfl⟩⟩ := Table.mem_modify.mp hother
        · exact hmoved airport hairport hkey
        · exact hplaced other hairport

theorem effect_refl : Effect rules t t := .kept (Int.le_refl _) (Int.le_refl _)

theorem createCity_effect (dto : CreateCityDto) : Effect rules t (CityService.create rules dto t).2 := by
  unfold CityService.create
  split_ifs
  · exact effect_refl
  · exact effect_refl
  · exact effect_refl
  · have hrefused : Effect rules t { t with lastCityId := t.lastCityId + 1 } :=
      .kept (by omega) (Int.le_refl _)
    unfold CityRepository.create
    cases dto.active.insertedOr true with
    | none => exact hrefused
    | some active =>
        simp only
        split
        · exact hrefused
        · rename_i hname
          refine .cityAdded _ rfl fun other hother heq => hname ?_
          exact List.any_eq_true.mpr ⟨other, hother, decide_eq_true heq⟩

theorem cityRepository_update_effect (data : UpdateCityDto) :
    Effect rules t (CityRepository.update id data t).2 := by
  unfold CityRepository.update
  cases hcity : t.city? id with
  | none => exact effect_refl
  | some city =>
      dsimp only
      cases hpatched : CityRepository.patched data city with
      | none => exact effect_refl
      | some city' =>
          simp only
          split
          · exact effect_refl
          · rename_i hname
            have hid : city'.id = id := (city_patched hpatched).1.trans (Table.mem_of_find hcity).2
            refine .cityChanged id _ (fun _ _ => hid) fun _ _ _ other hother hne heq => hname ?_
            exact List.any_eq_true.mpr ⟨other, hother, by simp [hne, heq]⟩

theorem updateCity_effect (dto : UpdateCityDto) :
    Effect rules t (CityService.update rules id dto t).2 := by
  unfold CityService.update
  cases t.city? id with
  | none => exact effect_refl
  | some existing =>
      simp only
      split_ifs
      · exact effect_refl
      · exact effect_refl
      · exact effect_refl
      · exact cityRepository_update_effect dto

/-- A row that is only deactivated keeps what is unique about it. -/
theorem removeCity_effect (h : Catalogued rules t) : Effect rules t (CityService.remove id t).2 := by
  have hdelete : Effect rules t (CityRepository.delete id t).2 := by
    refine .cityChanged id _ (fun _ heq => heq) fun city hcity hid other hother hne heq => hne ?_
    rw [List.inj_on_of_nodup_map h.names hother hcity heq]
    exact hid
  unfold CityService.remove
  cases t.city? id with
  | none => exact effect_refl
  | some city =>
      simp only
      split
      · exact effect_refl
      · split <;> exact hdelete

theorem restoreCity_effect : Effect rules t (CityService.restore id t).2 := by
  unfold CityService.restore
  cases t.city? id with
  | none => exact effect_refl
  | some city =>
      simp only
      split
      · exact effect_refl
      · exact cityRepository_update_effect _

theorem createAirport_effect (dto : CreateAirportDto) :
    Effect rules t (AirportService.create rules dto t).2 := by
  have hrefused : Effect rules t { t with lastAirportId := t.lastAirportId + 1 } :=
    .kept (Int.le_refl _) (by omega)
  unfold AirportService.create
  cases t.city? dto.cityId with
  | none => exact effect_refl
  | some city =>
      simp only
      split_ifs
      · exact effect_refl
      · exact effect_refl
      · unfold AirportRepository.create
        simp only
        split_ifs with hlong hcode hcity
        · exact effect_refl
        · exact hrefused
        · exact hrefused
        · refine .airportAdded _ rfl (fun other hother heq => hcode ?_) ⟨dto.code, rfl⟩ ?_
          · exact List.any_eq_true.mpr ⟨other, hother, decide_eq_true heq⟩
          · exact Option.isSome_iff_ne_none.mpr fun hnone => hcity (Option.isNone_iff_eq_none.mpr hnone)

theorem airport_patched_code {data : UpdateAirportDto} {airport airport' : Airport}
    (h : AirportRepository.patched rules data airport = some airport') :
    airport'.id = airport.id ∧
      (airport'.code = airport.code ∨ ∃ code, airport'.code = rules.toUpperCase code) := by
  simp only [AirportRepository.patched, Option.bind_eq_bind, Option.bind_eq_some_iff,
    Option.pure_def, Option.some.injEq] at h
  obtain ⟨name, -, code, hcode, cityId, -, rfl⟩ := h
  refine ⟨rfl, ?_⟩
  cases hgiven : data.code with
  | value s =>
      rw [hgiven] at hcode
      exact .inr ⟨s, (Option.some.inj hcode).symm⟩
  | _ =>
      rw [hgiven] at hcode
      exact .inl (Option.some.inj hcode).symm

theorem updateAirport_effect (h : Catalogued rules t) (dto : UpdateAirportDto) :
    Effect rules t (AirportService.update rules id dto t).2 := by
  unfold AirportService.update
  cases t.airport? id with
  | none => exact effect_refl
  | some existing =>
      simp only
      split_ifs
      · exact effect_refl
      · exact effect_refl
      · unfold AirportRepository.update
        cases hairport : t.airport? id with
        | none => exact effect_refl
        | some airport =>
            dsimp only
            cases hpatched : AirportRepository.patched rules dto airport with
            | none => exact effect_refl
            | some airport' =>
                simp only
                split_ifs with _ hcode hcity
                · exact effect_refl
                · exact effect_refl
                · exact effect_refl
                · obtain ⟨hmem, hkey⟩ := Table.mem_of_find hairport
                  obtain ⟨hid, hcapitals⟩ := airport_patched_code hpatched
                  refine .airportChanged id _ (fun _ _ => hid.trans hkey) ?_ ?_ ?_
                  · intro _ _ _ other hother hne heq
                    exact hcode (List.any_eq_true.mpr ⟨other, hother, by simp [hne, heq]⟩)
                  · intro _ _ _
                    rcases hcapitals with hsame | hnew
                    · rw [hsame]
                      exact h.capitals airport hmem
                    · exact hnew
                  · intro _ _ _
                    exact Option.isSome_iff_ne_none.mpr fun hnone =>
                      hcity (Option.isNone_iff_eq_none.mpr hnone)

theorem removeAirport_effect (h : Catalogued rules t) :
    Effect rules t (AirportService.remove id t).2 := by
  have hdelete : Effect rules t (AirportRepository.delete id t).2 := by
    refine .airportChanged id _ (fun _ heq => heq) ?_ ?_ ?_
    · intro airport hairport hid other hother hne heq
      apply hne
      rw [List.inj_on_of_nodup_map h.codes hother hairport heq]
      exact hid
    · exact fun airport hairport _ => h.capitals airport hairport
    · exact fun airport hairport _ => h.placed airport hairport
  unfold AirportService.remove
  cases t.airport? id with
  | none => exact effect_refl
  | some airport =>
      simp only
      split <;> exact hdelete

theorem effect_of_perform (h : Catalogued rules t) (call : Call) :
    Effect rules t (call.perform rules t) := by
  cases call with
  | createCity dto => exact createCity_effect dto
  | updateCity id dto => exact updateCity_effect dto
  | removeCity id => exact removeCity_effect h
  | restoreCity id => exact restoreCity_effect
  | createAirport dto => exact createAirport_effect dto
  | updateAirport id dto => exact updateAirport_effect h dto
  | removeAirport id => exact removeAirport_effect h

theorem Catalogued.performAll (h : Catalogued rules t) (calls : List Call) :
    Catalogued rules (performAll rules calls t) := by
  induction calls generalizing t with
  | nil => exact h
  | cons call calls ih => exact ih ((effect_of_perform h call).catalogued h)

/-- A code stands for one airport. -/
theorem Catalogued.findByCode (h : Catalogued rules t) {code : String} {airport : Airport} :
    AirportRepository.findByCode rules code t = some airport ↔
      airport ∈ t.airports ∧ airport.code = rules.toUpperCase code := by
  constructor
  · intro hfound
    exact ⟨List.mem_of_find?_eq_some hfound, by simpa using List.find?_some hfound⟩
  · rintro ⟨hairport, hcode⟩
    cases hfound : AirportRepository.findByCode rules code t with
    | none =>
        have hnone := List.find?_eq_none.mp hfound airport hairport
        simp [hcode] at hnone
    | some airport' =>
        have hcode' : airport'.code = rules.toUpperCase code := by simpa using List.find?_some hfound
        rw [List.inj_on_of_nodup_map h.codes (List.mem_of_find?_eq_some hfound) hairport
          (hcode'.trans hcode.symm)]

end Effects

end FlightBookings.Flight
