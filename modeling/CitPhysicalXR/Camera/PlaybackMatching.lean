import CitPhysicalXR.Foundation.KeyedTable
import Mathlib.Data.List.Perm.Basic

/-! Which medium of the camera an item of the playback grid shows: the pairs that
`match_dji_playback_media` returns, and when they are unambiguous. -/
namespace CitPhysicalXR.Camera
open Foundation

/-- A time without a zone: the ordinal of its date, and the second of the day. -/
structure LocalTime where
  date : ℕ
  second : ℕ
  deriving DecidableEq

structure DjiCameraMediaIdentity where
  name : String
  sequence : String
  size : ℕ
  durationSeconds : ℕ
  capturedAt : LocalTime
  deriving DecidableEq

/-- A cell of the grid; `node` is its element of the user interface. -/
structure DjiPlaybackItem where
  captureDate : ℕ
  durationSeconds : ℕ
  node : ℕ
  deriving DecidableEq

namespace DjiPlaybackItem

def shows (item : DjiPlaybackItem) (medium : DjiCameraMediaIdentity) : Bool :=
  decide (medium.capturedAt.date = item.captureDate) &&
    decide (medium.durationSeconds = item.durationSeconds)

def isLike (item other : DjiPlaybackItem) : Bool :=
  decide (other.captureDate = item.captureDate) &&
    decide (other.durationSeconds = item.durationSeconds)

theorem isLike_refl (item : DjiPlaybackItem) : item.isLike item = true := by
  simp [isLike]

theorem shows_congr {item other : DjiPlaybackItem} (h : item.isLike other = true) :
    other.shows = item.shows ∧ other.isLike = item.isLike := by
  simp only [isLike, Bool.and_eq_true, decide_eq_true_eq] at h
  constructor
  · funext medium
    simp only [shows, h.1, h.2]
  · funext third
    simp only [isLike, h.1, h.2]

theorem isLike_of_shows {item other : DjiPlaybackItem} {medium : DjiCameraMediaIdentity}
    (h : item.shows medium = true) (hother : other.shows medium = true) :
    item.isLike other = true := by
  simp only [shows, isLike, Bool.and_eq_true, decide_eq_true_eq] at *
  exact ⟨hother.1.symm.trans h.1, hother.2.symm.trans h.2⟩

end DjiPlaybackItem

/-- The key of `parse_dji_camera_cache_listing`, which keeps one medium for each folded name. -/
def mediaKey (casefold : String → String) (medium : DjiCameraMediaIdentity) : String :=
  casefold medium.name

variable {casefold : String → String}

/-- The loop of `match_dji_playback_media`, with the folded names in use. -/
def matchFrom (media : Table (mediaKey casefold)) :
    List String → List DjiPlaybackItem → List (DjiCameraMediaIdentity × DjiPlaybackItem)
  | _, [] => []
  | used, item :: items =>
    match media.rows.filter fun candidate =>
        !decide (casefold candidate.name ∈ used) && item.shows candidate with
    | [candidate] => (candidate, item) :: matchFrom media (casefold candidate.name :: used) items
    | _ => matchFrom media used items

def matchDjiPlaybackMedia (media : Table (mediaKey casefold)) (items : List DjiPlaybackItem) :
    List (DjiCameraMediaIdentity × DjiPlaybackItem) :=
  matchFrom media [] items

/-- Every pair is of the only medium and the only item of its date and duration, none occurs
twice, and the order of the two lists does not matter. -/
structure Unambiguous (media : Table (mediaKey casefold)) (items : List DjiPlaybackItem) :
    Prop where
  sole : ∀ pair ∈ matchDjiPlaybackMedia media items,
    media.rows.filter pair.2.shows = [pair.1] ∧ items.filter pair.2.isLike = [pair.2]
  once : (matchDjiPlaybackMedia media items).Pairwise fun p q => p.1 ≠ q.1 ∧ p.2 ≠ q.2
  ordered : ∀ (media' : Table (mediaKey casefold)) items', media'.rows.Perm media.rows →
    items'.Perm items → ∀ pair, pair ∈ matchDjiPlaybackMedia media' items' ↔
      pair ∈ matchDjiPlaybackMedia media items

/-- Where a single medium has the date and duration of an item, the item is the single one. -/
def ShownOnce (media : Table (mediaKey casefold)) (items : List DjiPlaybackItem) : Prop :=
  ∀ item ∈ items, (media.rows.filter item.shows).length = 1 →
    (items.filter item.isLike).length = 1

variable {media : Table (mediaKey casefold)} {items : List DjiPlaybackItem}

theorem ShownOnce.tail {item : DjiPlaybackItem} (h : ShownOnce media (item :: items)) :
    ShownOnce media items := by
  intro other hother hsole
  have hlength := h other (List.mem_cons_of_mem item hother) hsole
  have hself : other ∈ items.filter other.isLike :=
    List.mem_filter.mpr ⟨hother, other.isLike_refl⟩
  have hpos := List.length_pos_of_mem hself
  have hle := ((List.sublist_cons_self item items).filter other.isLike).length_le
  omega

theorem ShownOnce.head {item other : DjiPlaybackItem} (h : ShownOnce media (item :: items))
    (hsole : (media.rows.filter item.shows).length = 1) (hother : other ∈ items) :
    item.isLike other = false := by
  have hlength := h item List.mem_cons_self hsole
  rw [List.filter_cons_of_pos item.isLike_refl, List.length_cons, Nat.add_eq_right,
    List.length_eq_zero_iff, List.filter_eq_nil_iff] at hlength
  exact Bool.eq_false_iff.mpr (hlength other hother)

/-- The names in use are of media that none of the items left shows. -/
theorem matchFrom_spec (h : ShownOnce media items) {used : List String}
    (hused : ∀ medium ∈ media, casefold medium.name ∈ used →
      ∀ item ∈ items, item.shows medium = false) :
    (∀ pair, pair ∈ matchFrom media used items ↔
      pair.2 ∈ items ∧ media.rows.filter pair.2.shows = [pair.1]) ∧
    (matchFrom media used items).Pairwise fun p q => p.1 ≠ q.1 ∧ p.2 ≠ q.2 := by
  induction items generalizing used with
  | nil => simp [matchFrom]
  | cons item items ih =>
    have hcandidates : (media.rows.filter fun candidate =>
        !decide (casefold candidate.name ∈ used) && item.shows candidate) =
          media.rows.filter item.shows := by
      refine List.filter_congr fun medium hmedium => ?_
      by_cases hname : casefold medium.name ∈ used
      · have hshows := hused medium hmedium hname item List.mem_cons_self
        simp [hshows]
      · simp [hname]
    have htail : ∀ medium ∈ media, casefold medium.name ∈ used →
        ∀ other ∈ items, other.shows medium = false := by
      intro medium hmedium hname other hother
      exact hused medium hmedium hname other (List.mem_cons_of_mem item hother)
    rw [matchFrom, hcandidates]
    split
    · rename_i candidate hsole
      have hone : (media.rows.filter item.shows).length = 1 := by
        rw [hsole]
        rfl
      have hcandidate : candidate ∈ media ∧ item.shows candidate = true :=
        List.mem_filter.mp (by rw [hsole]; exact List.mem_singleton_self candidate)
      have hnext : ∀ medium ∈ media, casefold medium.name ∈ casefold candidate.name :: used →
          ∀ other ∈ items, other.shows medium = false := by
        intro medium hmedium hname other hother
        obtain hname | hname := List.mem_cons.mp hname
        · have hsame : medium = candidate := Table.eq_of_key_eq hmedium hcandidate.1 hname
          rw [hsame, Bool.eq_false_iff]
          intro hshows
          have hlike := DjiPlaybackItem.isLike_of_shows hcandidate.2 hshows
          rw [h.head hone hother] at hlike
          cases hlike
        · exact htail medium hmedium hname other hother
      obtain ⟨hmem, honce⟩ := ih h.tail hnext
      constructor
      · intro pair
        rw [List.mem_cons, hmem, List.mem_cons]
        constructor
        · rintro (rfl | ⟨hitem, hfilter⟩)
          · exact ⟨.inl rfl, hsole⟩
          · exact ⟨.inr hitem, hfilter⟩
        · rintro ⟨hitem | hitem, hfilter⟩
          · rw [hitem, hsole, List.singleton_inj] at hfilter
            exact .inl (Prod.ext hfilter.symm hitem)
          · exact .inr ⟨hitem, hfilter⟩
      · refine List.pairwise_cons.mpr ⟨fun pair hpair => ?_, honce⟩
        obtain ⟨hitem, hfilter⟩ := (hmem pair).mp hpair
        have hshows : pair.1 ∈ media.rows ∧ pair.2.shows pair.1 = true :=
          List.mem_filter.mp (by rw [hfilter]; exact List.mem_singleton_self pair.1)
        have hunlike := h.head hone hitem
        constructor
        · rintro rfl
          rw [DjiPlaybackItem.isLike_of_shows hcandidate.2 hshows.2] at hunlike
          cases hunlike
        · rintro rfl
          rw [DjiPlaybackItem.isLike_refl] at hunlike
          cases hunlike
    · rename_i hnone
      obtain ⟨hmem, honce⟩ := ih h.tail htail
      refine ⟨fun pair => ?_, honce⟩
      rw [hmem, List.mem_cons]
      constructor
      · rintro ⟨hitem, hfilter⟩
        exact ⟨.inr hitem, hfilter⟩
      · rintro ⟨rfl | hitem, hfilter⟩
        · exact absurd hfilter (hnone pair.1)
        · exact ⟨hitem, hfilter⟩

theorem ShownOnce.mem_iff (h : ShownOnce media items)
    (pair : DjiCameraMediaIdentity × DjiPlaybackItem) :
    pair ∈ matchDjiPlaybackMedia media items ↔
      pair.2 ∈ items ∧ media.rows.filter pair.2.shows = [pair.1] :=
  (matchFrom_spec h fun _ _ hname => by cases hname).1 pair

theorem ShownOnce.perm {media' : Table (mediaKey casefold)} {items' : List DjiPlaybackItem}
    (h : ShownOnce media items) (hmedia : media'.rows.Perm media.rows)
    (hitems : items'.Perm items) : ShownOnce media' items' := by
  intro item hitem hsole
  rw [(hmedia.filter item.shows).length_eq] at hsole
  rw [(hitems.filter item.isLike).length_eq]
  exact h item (hitems.mem_iff.mp hitem) hsole

theorem matchFrom_reaches {item : DjiPlaybackItem} {medium : DjiCameraMediaIdentity}
    {used : List String} (hsole : media.rows.filter item.shows = [medium])
    (hfree : casefold medium.name ∉ used) (hlike : ∃ other ∈ items, item.isLike other = true) :
    ∃ other, item.isLike other = true ∧ (medium, other) ∈ matchFrom media used items := by
  have hmedium : medium ∈ media.rows ∧ item.shows medium = true :=
    List.mem_filter.mp (by rw [hsole]; exact List.mem_singleton_self medium)
  induction items generalizing used with
  | nil => simp at hlike
  | cons first items ih =>
    rw [matchFrom]
    by_cases hfirst : item.isLike first = true
    · have hcandidates : (media.rows.filter fun candidate =>
          !decide (casefold candidate.name ∈ used) && first.shows candidate) = [medium] := by
        rw [← List.filter_filter, (DjiPlaybackItem.shows_congr hfirst).1, hsole]
        simp [hfree]
      rw [hcandidates]
      exact ⟨first, hfirst, List.mem_cons_self⟩
    · have hlater : ∃ other ∈ items, item.isLike other = true := by
        obtain ⟨other, hother, hlike⟩ := hlike
        obtain rfl | hother := List.mem_cons.mp hother
        · exact absurd hlike hfirst
        · exact ⟨other, hother, hlike⟩
      split
      · rename_i candidate hcandidates
        have hcandidate : candidate ∈ media.rows ∧ first.shows candidate = true := by
          have hmem : candidate ∈ media.rows.filter fun candidate =>
              !decide (casefold candidate.name ∈ used) && first.shows candidate := by
            rw [hcandidates]
            exact List.mem_singleton_self candidate
          obtain ⟨hrow, hshows⟩ := List.mem_filter.mp hmem
          exact ⟨hrow, (Bool.and_eq_true_iff.mp hshows).2⟩
        have hnext : casefold medium.name ∉ casefold candidate.name :: used := by
          rw [List.mem_cons, not_or]
          refine ⟨fun hname => ?_, hfree⟩
          have hsame : medium = candidate := Table.eq_of_key_eq hmedium.1 hcandidate.1 hname
          rw [← hsame] at hcandidate
          exact hfirst (DjiPlaybackItem.isLike_of_shows hmedium.2 hcandidate.2)
        obtain ⟨other, hother, hmatched⟩ := ih hnext hlater
        exact ⟨other, hother, List.mem_cons_of_mem _ hmatched⟩
      · exact ih hfree hlater

/-- The pairs are unambiguous exactly if no single medium of its date and duration is shown by
two items. -/
theorem playback_unambiguous_iff : Unambiguous media items ↔ ShownOnce media items := by
  constructor
  · intro h item hitem hsole
    obtain ⟨medium, hmedium⟩ := List.length_eq_one_iff.mp hsole
    obtain ⟨other, hlike, hmatched⟩ : ∃ other, item.isLike other = true ∧
        (medium, other) ∈ matchFrom media [] items :=
      matchFrom_reaches hmedium List.not_mem_nil ⟨item, hitem, item.isLike_refl⟩
    have honly := (h.sole (medium, other) hmatched).2
    rw [(DjiPlaybackItem.shows_congr hlike).2] at honly
    rw [honly]
    rfl
  · intro h
    refine ⟨fun pair hpair => ?_, ?_, fun media' items' hmedia hitems pair => ?_⟩
    · obtain ⟨hitem, hsole⟩ := (h.mem_iff pair).mp hpair
      have hone := h pair.2 hitem (by rw [hsole]; rfl)
      obtain ⟨only, honly⟩ := List.length_eq_one_iff.mp hone
      have hself : pair.2 ∈ items.filter pair.2.isLike :=
        List.mem_filter.mpr ⟨hitem, pair.2.isLike_refl⟩
      rw [honly, List.mem_singleton] at hself
      exact ⟨hsole, by rw [honly, hself]⟩
    · exact (matchFrom_spec h fun _ _ hname => by cases hname).2
    · rw [h.mem_iff, (h.perm hmedia hitems).mem_iff, hitems.mem_iff]
      refine and_congr_right fun _ => ⟨fun hsole => ?_, fun hsole => ?_⟩
      · have hperm := hmedia.filter pair.2.shows
        rw [hsole] at hperm
        exact List.singleton_perm.mp hperm |>.symm
      · have hperm := hmedia.symm.filter pair.2.shows
        rw [hsole] at hperm
        exact List.singleton_perm.mp hperm |>.symm

/-- The recording that is not on the phone yet. -/
def missingRecording : DjiCameraMediaIdentity :=
  ⟨"DJI_20260301093000_0002_D.MP4", "0002", 5000, 12, ⟨739676, 34200⟩⟩

/-- The grid shows it behind one of the same date and duration that was downloaded before. -/
def recordingCells : List DjiPlaybackItem := [⟨739676, 12, 1⟩, ⟨739676, 12, 2⟩]

def cameraCache : Table (mediaKey id) := ⟨[missingRecording], List.nodup_singleton _⟩

theorem playback_ambiguous : ¬ Unambiguous cameraCache recordingCells := by
  intro h
  have hmatched : (missingRecording, (⟨739676, 12, 1⟩ : DjiPlaybackItem)) ∈
      matchDjiPlaybackMedia cameraCache recordingCells := by
    decide
  have honly := (h.sole _ hmatched).2
  exact absurd honly (by decide)

end CitPhysicalXR.Camera
