import Mixtape.Proofs.Service.Tries

/-!
# Listings read page by page

A listing comes in pages, each of which tells whether another one follows. A read asks for one after the
other and puts their entries together; for albums it follows the pages of every album's own listing as
well. Any of these calls may fail in a way that may pass, and then the read begins anew with the first
page. What it has put together until then is lost with the attempt, so nothing of it is found twice in
what comes back: that is made of the entries of one attempt only, which has asked for all pages.

The service is taken as what answers a plan: the calls of one attempt in their order, each with its
answer. It may refuse any call of the plan, in any state, and starts with the plan from its beginning
then. Whether it tells by the link of a page which one is next, or by the calls made so far, is left
open. A listing may have any number of pages, with any number of pages in what it lists; a connector
reads it whole that follows so many.

## Main definitions

* `Chain pages` — pages of which each but the last has a link to the next.
* `entriesOf page` — the entries of a page that count as given.
* `Client.Serves` — a service that answers a plan, or fails.
* `PagedRead` — the reads: what they ask for, which entries they take, what those come to.
* `PagedRead.Offers` — the pages of a listing and of what it lists.

## Main results

* `meets_collectPages` — the entries of a chain of pages.
* `PagedRead.meets_attempt` — an attempt that is not broken off has all entries.
* `PagedRead.run_pages` — **a read has the entries of all pages, each once, and ends with the first call
  that fails for good.**
-/

namespace Mixtape.Service

open Action

/-! ### Chains of pages -/

/-- Pages of which each but the last has a link to the next. -/
inductive Chain : List Json → Prop
  /-- No page. -/
  | nil : Chain []
  /-- The last page. -/
  | last {page : Json} (ends : page.isTruthy = true → (page.get "next").isTruthy = false) : Chain [page]
  /-- A page before another. -/
  | cons {page next : Json} {rest : List Json} (given : page.isTruthy = true)
      (link : (page.get "next").isTruthy = true) (others : Chain (next :: rest)) :
      Chain (page :: next :: rest)

/-- The entries of a page that count as given. -/
def entriesOf (page : Json) : List Json :=
  if page.isTruthy then (pageItems page).toOption.getD [] else []

theorem entriesOf_of_falsy {page : Json} (h : page.isTruthy = false) : entriesOf page = [] := by
  rw [entriesOf, h, if_neg Bool.false_ne_true]

theorem entriesOf_of_pageItems {page : Json} {items : List Json} (h : page.isTruthy = true)
    (hitems : pageItems page = .ok items) : entriesOf page = items := by
  rw [entriesOf, h, if_pos rfl, hitems]
  rfl

/-- Calls in their order, each with its answer. -/
abbrev Plan := List (Request × Json)

/-- The calls for the pages after the first one. -/
def links : List Json → Plan
  | page :: next :: rest => (.nextPage page, next) :: links (next :: rest)
  | _ => []

section Serving

variable {σ : Type} {c : Connector σ} {plan rest : Plan} {left : Plan → σ → Prop}

/-- A service that answers the calls of a plan as planned, one after the other, or fails; after a failure
that may pass it starts with the plan anew. What is left of the plan is a matter of its state. -/
structure Client.Serves (c : Client σ) (plan : Plan) (left : Plan → σ → Prop) : Prop where
  /-- A call of the plan is answered as planned. -/
  answers : ∀ {r a rest s x t}, left ((r, a) :: rest) s → c.send r s = (.ok x, t) → x = a ∧ left rest t
  /-- Where it fails in a way that may pass, all of the plan is left. -/
  breaks : ∀ {r a rest s fault t}, left ((r, a) :: rest) s → c.send r s = (.error fault, t) →
    fault.ending.IsTransient → left plan t

/-- A failure that may pass leaves the whole plan. -/
def Restarts (plan : Plan) (left : Plan → σ → Prop) (f : Failure) (s : Session σ) : Prop :=
  f.IsTransient → left plan s.client

theorem meets_plannedCall (h : c.client.Serves plan left) (r : Request) (a : Json) :
    Meets (fun s => left ((r, a) :: rest) s.client) (c.call r) (fun x s => x = a ∧ left rest s.client)
      (Restarts plan left) := by
  intro s hs
  unfold Connector.call Client.call
  simp only [runOn_ofRun]
  rcases hsend : c.client.send r s.client with ⟨fault | x, t⟩
  · exact h.breaks hs hsend
  · exact h.answers hs hsend

/-- A checked value that fails for good. -/
theorem meets_definite {α : Type} {P : Session σ → Prop} {r : Except Failure α} (h : Definite r) :
    Meets P (Action.ofExcept r) (fun a s => r = .ok a ∧ P s) (Restarts plan left) :=
  meets_ofExcept (fun _ hr _ hs => ⟨hr, hs⟩) fun f hr _ _ hf => absurd ⟨f, hr, hf⟩ h

/-- **The entries of a chain of pages** are those of each page, in order. -/
theorem meets_collectPages (h : c.client.Serves plan left) :
    ∀ {more : Nat} {page : Json} {pages : List Json}, Chain (page :: pages) → pages.length ≤ more →
      Meets (fun s => left (links (page :: pages) ++ rest) s.client) (c.collectPages more page)
        (fun items s => items = (page :: pages).flatMap entriesOf ∧ left rest s.client)
        (Restarts plan left)
  | more, page, pages, hchain, hroom => by
    unfold Connector.collectPages
    refine meets_ite (fun hfalsy => ?_) fun hgiven => ?_
    · rw [Bool.not_eq_true'] at hfalsy
      cases hchain with
      | last ends =>
        exact meets_pure fun s hs => ⟨by rw [List.flatMap_singleton, entriesOf_of_falsy hfalsy], hs⟩
      | cons given =>
        rw [hfalsy] at given
        cases given
    rw [Bool.not_eq_true', Bool.not_eq_false] at hgiven
    refine (meets_definite (definite_pageItems page)).bind fun items => meets_of_and fun hitems => ?_
    refine (meets_definite (definite_entry page "next")).bind fun link => meets_of_and fun hlink => ?_
    obtain rfl := eq_get_of_entry hlink
    have hentries := entriesOf_of_pageItems hgiven hitems
    refine meets_ite (fun hend => ?_) fun hmore => ?_
    · rw [Bool.not_eq_true'] at hend
      cases hchain with
      | last ends => exact meets_pure fun s hs => ⟨by rw [List.flatMap_singleton, hentries], hs⟩
      | cons given link =>
        rw [hend] at link
        cases link
    · cases hchain with
      | last ends =>
        rw [ends hgiven] at hmore
        exact absurd rfl hmore
      | cons given link hothers =>
        cases more with
        | zero => exact absurd hroom (Nat.not_succ_le_zero _)
        | succ more =>
          refine (meets_plannedCall h _ _).bind fun x => meets_of_and fun hx => ?_
          subst hx
          refine (meets_collectPages h hothers (Nat.le_of_succ_le_succ hroom)).bind fun found => ?_
          refine meets_pure ?_
          rintro s ⟨rfl, hs⟩
          exact ⟨by rw [← hentries, ← List.flatMap_cons], hs⟩

/-- **The entries of all pages of a listing.** -/
theorem meets_listing (h : c.client.Serves plan left) {request : Request} {page : Json} {pages : List Json}
    (hchain : Chain (page :: pages)) (hroom : pages.length ≤ c.maxPages) :
    Meets (fun s => left ((request, page) :: links (page :: pages) ++ rest) s.client) (c.listing request)
      (fun items s => items = (page :: pages).flatMap entriesOf ∧ left rest s.client)
      (Restarts plan left) := by
  refine (meets_plannedCall h request page).bind fun first => meets_of_and fun hfirst => ?_
  subst hfirst
  exact meets_collectPages h hchain hroom

/-! ### Albums -/

/-- The pages that start with one that is given: none if there is none, and otherwise a chain of it and
others, as many as are followed at most. -/
structure Opens (room : Nat) (first : Option Json) (pages : List Json) : Prop where
  /-- The first page. -/
  first : pages.head? = first
  /-- All pages. -/
  chain : Chain pages
  /-- So many are followed. -/
  fits : pages.length ≤ room + 1

theorem Opens.exists_eq_cons {room : Nat} {page : Json} {pages : List Json} (h : Opens room (some page) pages) :
    ∃ others, pages = page :: others ∧ Chain (page :: others) ∧ others.length ≤ room := by
  obtain ⟨hfirst, hchain, hfits⟩ := h
  cases pages with
  | nil => cases hfirst
  | cons p others =>
    obtain rfl : p = page := Option.some.inj hfirst
    exact ⟨others, rfl, hchain, Nat.le_of_succ_le_succ hfits⟩

/-- What an entry of saved albums comes to with the pages of its tracks. -/
def albumOf (e : Json × List Json) : Except Failure AlbumListing :=
  AlbumListing.ofJson (e.1.get "album") ((e.2.flatMap entriesOf).filter hasId) (e.1.get "added_at")

/-- **The albums of entries**, each with the tracks of its own pages. -/
theorem meets_albumsOf (h : c.client.Serves plan left) (items : List Json) :
    ∀ {entries : List (Json × List Json)}, entries.map Prod.fst = items.filter listsAlbum →
      (∀ e ∈ entries, Opens c.maxPages (some ((e.1.get "album").get "tracks")) e.2) →
      Meets (fun s => left (entries.flatMap (links ·.2) ++ rest) s.client) (c.albumsOf items)
        (fun out s => entries.mapM albumOf = .ok out ∧ left rest s.client) (Restarts plan left) := by
  induction items with
  | nil =>
    intro entries hentries _
    obtain rfl : entries = [] := List.map_eq_nil_iff.1 hentries
    exact meets_pure fun s hs => ⟨rfl, hs⟩
  | cons item others ih =>
    intro entries hentries hopens
    unfold Connector.albumsOf
    refine (meets_definite (definite_entry item "album")).bind fun album => meets_of_and fun halbum => ?_
    obtain rfl := eq_get_of_entry halbum
    refine meets_ite (fun hnone => ?_) fun hsome => ?_
    · rw [List.filter_cons_of_neg (by simpa [listsAlbum] using hnone)] at hentries
      exact ih hentries hopens
    · rw [List.filter_cons_of_pos (by simpa [listsAlbum] using hsome)] at hentries
      obtain ⟨⟨item', pages⟩, entries, rfl, rfl, hothers⟩ := List.map_eq_cons_iff.1 hentries
      obtain ⟨hopen, hopened⟩ := List.forall_mem_cons.1 hopens
      dsimp only at hsome hopen ⊢
      obtain ⟨pages, rfl, hchain, hroom⟩ := hopen.exists_eq_cons
      rw [List.flatMap_cons, List.append_assoc]
      refine (meets_definite (definite_entry _ "tracks")).bind fun first => meets_of_and fun hfirst => ?_
      obtain rfl := eq_get_of_entry hfirst
      refine (meets_collectPages h hchain hroom).bind fun tracks => meets_of_and fun htracks => ?_
      subst htracks
      refine (meets_definite (definite_albumListing _ _ _)).bind fun listed => meets_of_and fun hlisted => ?_
      refine (ih hothers hopened).bind fun out => meets_of_and fun hout => meets_pure fun s hs => ⟨?_, hs⟩
      have hone : albumOf (item', _) = .ok listed := ofJson_filter hlisted
      rw [List.mapM_cons, hone, hout]
      rfl

end Serving

/-! ### The reads -/

/-- The reads that follow pages. -/
inductive PagedRead where
  /-- The ids on a playlist. -/
  | itemIds (playlist : Json)
  /-- The tracks on a playlist. -/
  | itemTracks (playlist : Json)
  /-- The user's playlists. -/
  | playlists
  /-- The liked tracks. -/
  | likedTracks
  /-- The saved albums. -/
  | savedAlbums

namespace PagedRead

variable {σ : Type} {c : Connector σ} {whole : Plan} {left : Plan → σ → Prop} {k : PagedRead}
  {pages : List Json} {entries : List (Json × List Json)}

/-- What an entry comes to. -/
abbrev Entry : PagedRead → Type
  | itemIds _ => Json
  | itemTracks _ | likedTracks => TrackListing
  | playlists => PlaylistListing
  | savedAlbums => AlbumListing

/-- The read. -/
def run (c : Connector σ) : (k : PagedRead) → Action (Session σ) (List k.Entry)
  | itemIds playlist => c.playlistIds playlist
  | itemTracks playlist => c.playlistTracks playlist
  | playlists => c.userPlaylists
  | likedTracks => c.likedTracks
  | savedAlbums => c.savedAlbums

/-- The call for the first page. -/
def request (c : Connector σ) : PagedRead → Request
  | itemIds playlist => .playlistIds playlist c.readPage
  | itemTracks playlist => .playlistTracks playlist c.readPage
  | playlists => .userPlaylists
  | likedTracks => .likedTracks c.likedPage
  | savedAlbums => .savedAlbums

/-- What the read makes of the entries of all pages. -/
def gather (c : Connector σ) : (k : PagedRead) → List Json → Action (Session σ) (List k.Entry)
  | itemIds _, items => Action.ofExcept (collect Connector.itemId? items)
  | itemTracks _, items => Action.ofExcept (collect (Connector.itemTrack? false) items)
  | playlists, items => Action.ofExcept (items.mapM PlaylistListing.ofJson)
  | likedTracks, items => Action.ofExcept (collect (Connector.itemTrack? true) items)
  | savedAlbums, items => c.albumsOf items

/-- One attempt of the read. -/
def attempt (c : Connector σ) (k : PagedRead) : Action (Session σ) (List k.Entry) := do
  let items ← c.listing (k.request c)
  k.gather c items

theorem run_eq_retrying (c : Connector σ) (k : PagedRead) : k.run c = retrying (k.attempt c) c.retries := by
  cases k <;> rfl

/-- The entries that are taken. -/
def isEligible : PagedRead → Json → Bool
  | itemIds _ | itemTracks _ => listsTrack false
  | playlists => fun _ => true
  | likedTracks => listsTrack true
  | savedAlbums => listsAlbum

/-- The first page of a listing that an entry holds: that of the tracks of an album. -/
def within : PagedRead → Json → Option Json
  | savedAlbums, item => some ((item.get "album").get "tracks")
  | _, _ => none

/-- What an entry comes to, with the pages of the listing it holds. -/
def convert : (k : PagedRead) → Json × List Json → Except Failure k.Entry
  | itemIds _, e => .ok ((e.1.get "track").get "id")
  | itemTracks _, e | likedTracks, e =>
    TrackListing.ofJson (e.1.get "track") (e.1.get "added_at") .null
  | playlists, e => PlaylistListing.ofJson e.1
  | savedAlbums, e => albumOf e

/-- The pages of a listing, and the entries that are taken from them, each with the pages of the listing it
holds. -/
structure Offers (k : PagedRead) (room : Nat) (pages : List Json) (entries : List (Json × List Json)) :
    Prop where
  /-- There is a page. -/
  starts : pages ≠ []
  /-- The pages are linked. -/
  chain : Chain pages
  /-- So many are followed. -/
  fits : pages.length ≤ room + 1
  /-- The entries that are taken, in the order of the pages. -/
  taken : entries.map Prod.fst = (pages.flatMap entriesOf).filter k.isEligible
  /-- The pages of the listings they hold. -/
  opens : ∀ e ∈ entries, Opens room (k.within e.1) e.2

/-- The calls of an attempt that is not broken off. -/
def plan (c : Connector σ) (k : PagedRead) (pages : List Json) (entries : List (Json × List Json)) : Plan :=
  (k.request c, pages.headD .null) :: links pages ++ entries.flatMap (links ·.2)

/-- What is made of the entries of all pages is what the taken ones come to, each with the pages of the
listing it holds. -/
theorem meets_gather (h : c.client.Serves whole left)
    (htaken : entries.map Prod.fst = (pages.flatMap entriesOf).filter k.isEligible)
    (hopens : ∀ e ∈ entries, Opens c.maxPages (k.within e.1) e.2) :
    Meets (fun s => left (entries.flatMap (links ·.2)) s.client) (k.gather c (pages.flatMap entriesOf))
      (fun out _ => entries.mapM k.convert = .ok out) (Restarts whole left) := by
  have hcollect : ∀ {β : Type} {r : Except Failure (List β)} (g : Json → Except Failure β),
      Definite r →
      (∀ out, r = .ok out → ((pages.flatMap entriesOf).filter k.isEligible).mapM g = .ok out) →
      Meets (fun s => left (entries.flatMap (links ·.2)) s.client) (Action.ofExcept r)
        (fun out _ => entries.mapM (fun e => g e.1) = .ok out) (Restarts whole left) := by
    intro β r g hr hg
    refine (meets_definite hr).imp (fun _ => id) (fun out s hout => ?_) fun _ _ => id
    rw [← hg out hout.1, ← htaken, List.mapM_map]
    rfl
  cases k with
  | itemIds playlist =>
    exact hcollect _ (definite_collect definite_itemId? _) fun _ => itemIds_of_collect
  | itemTracks playlist =>
    exact hcollect _ (definite_collect (definite_itemTrack? false) _) fun _ => itemTracks_of_collect
  | playlists =>
    refine hcollect PlaylistListing.ofJson (definite_mapM definite_playlistListing _) fun out hout => ?_
    rw [← hout]
    exact congrArg (List.mapM _) (List.filter_eq_self.2 fun _ _ => rfl)
  | likedTracks =>
    exact hcollect _ (definite_collect (definite_itemTrack? true) _) fun _ => itemTracks_of_collect
  | savedAlbums =>
    have halbums : Meets (fun s : Session σ => left (entries.flatMap (links ·.2) ++ []) s.client) _ _ _ :=
      meets_albumsOf h _ htaken hopens
    rw [List.append_nil] at halbums
    exact halbums.imp (fun _ => id) (fun _ _ => And.left) fun _ _ => id

/-- **An attempt that is not broken off has all entries**, each once and in order. -/
theorem meets_attempt (hoffers : k.Offers c.maxPages pages entries)
    (h : c.client.Serves (k.plan c pages entries) left) :
    Meets (fun s => left (k.plan c pages entries) s.client) (k.attempt c)
      (fun out _ => entries.mapM k.convert = .ok out) (Restarts (k.plan c pages entries) left) := by
  obtain ⟨hstarts, hchain, hfits, htaken, hopens⟩ := hoffers
  obtain ⟨page, pages, rfl⟩ := List.exists_cons_of_ne_nil hstarts
  refine (meets_listing h hchain (Nat.le_of_succ_le_succ hfits)).bind fun items => meets_of_and fun hitems => ?_
  subst hitems
  exact meets_gather h htaken hopens

/-- An attempt ends with the first call that fails. -/
theorem givesUp_attempt {sent : σ → List (Request × Option CallFault)} (h : c.client.Notes sent) :
    GivesUp sent (k.attempt c) := by
  refine (givesUp_listing h _).bind fun items => ?_
  cases k with
  | itemIds playlist => exact givesUp_ofExcept (definite_collect definite_itemId? items)
  | itemTracks playlist => exact givesUp_ofExcept (definite_collect (definite_itemTrack? false) items)
  | playlists => exact givesUp_ofExcept (definite_mapM definite_playlistListing items)
  | likedTracks => exact givesUp_ofExcept (definite_collect (definite_itemTrack? true) items)
  | savedAlbums => exact givesUp_albumsOf h items

/-- **A read loses nothing and repeats nothing.** Whichever calls fail in between, what it returns are the
entries that are taken from all pages, each once, in their order, and with all pages of the listing it
holds. It is the last of at most so many attempts as are allowed, of which the others were broken off by
failures that may pass; and if a call fails for good, that call is the last one and its failure that of
the read. -/
theorem run_pages (hoffers : k.Offers c.maxPages pages entries)
    (hserves : c.client.Serves (k.plan c pages entries) left) {s t : Session σ}
    (hs : left (k.plan c pages entries) s.client) {r : Except Failure (List k.Entry)}
    (hrun : (k.run c).runOn s = (r, t)) :
    (∀ out, r = .ok out → entries.mapM k.convert = .ok out) ∧
    (∃ n u, n ≤ c.retries ∧ Broken (k.attempt c) n s u ∧ (k.attempt c).runOn u = (r, t) ∧
      (n < c.retries → Definite r)) ∧
    ∀ sent, c.client.Notes sent → Passes (sent s.client) → ∀ before request fault after,
      sent t.client = before ++ (request, some fault) :: after → ¬fault.ending.IsTransient →
      after = [] ∧ r = .error fault.ending := by
  rw [run_eq_retrying] at hrun
  refine ⟨?_, runOn_retrying_iff.1 hrun, ?_⟩
  · rintro out rfl
    have hread := meets_retrying (meets_attempt hoffers hserves) (fun _ _ hf hbroken => hbroken hf) c.retries
    exact hread.of_ok hs hrun
  · intro sent hnotes hsent before request fault after hlog hfault
    exact (givesUp_retrying (givesUp_attempt hnotes) c.retries).eq_nil_of_definite hsent hrun hlog hfault

/-! ### A service in memory -/

/-- What the service in memory keeps: which of the calls to come fail, and the calls made. -/
structure Recorder where
  /-- The faults of the calls to come. -/
  script : List (Option CallFault)
  /-- The calls made, each with its fault. -/
  sent : List (Request × Option CallFault)

/-- The fault of a call, or the answer that a plan has for it. -/
def reply (plan : Plan) (r : Request) : Option CallFault → Except CallFault Json
  | some fault => .error fault
  | none => .ok ((plan.lookup r).getD .null)

/-- A service that fails where its script says so, and else has an answer for each call of a plan. -/
def recorded (plan : Plan) : Client Recorder where
  send r s :=
    (reply plan r (s.script.headD none), ⟨s.script.tail, s.sent ++ [(r, s.script.headD none)]⟩)

theorem faultOf_reply (plan : Plan) (r : Request) (fault : Option CallFault) :
    faultOf (reply plan r fault) = fault := by
  cases fault <;> rfl

theorem notes_recorded (plan : Plan) : (recorded plan).Notes Recorder.sent := fun r s => by
  simp only [recorded, faultOf_reply]

theorem serves_recorded {plan : Plan} (h : ∀ e ∈ plan, plan.lookup e.1 = some e.2) :
    (recorded plan).Serves plan fun rest _ => rest ⊆ plan where
  answers := by
    intro r a rest s x t hleft hsend
    obtain ⟨hcall, hrest⟩ := List.cons_subset.1 hleft
    refine ⟨?_, hrest⟩
    obtain ⟨hreply, -⟩ := Prod.mk.inj hsend
    cases hfault : s.script.headD none with
    | some fault =>
      rw [hfault] at hreply
      cases hreply
    | none =>
      rw [hfault, reply, h _ hcall] at hreply
      exact (Except.ok.inj hreply).symm
  breaks _ _ _ := List.Subset.refl plan

/-- The listing of a track. -/
def disc (id : String) : Json :=
  .object [("id", .text id), ("name", .text id), ("artists", .list [])]

/-- A page with a mark of the one that follows. -/
def sheet (items : List Json) (next : Json) : Json := .object [("items", .list items), ("next", next)]

/-- A saved album, with the first page of its tracks. -/
def saved (id : String) (tracks : Json) : Json :=
  .object [("album", .object [("id", .text id), ("name", .text id), ("artists", .list []),
    ("tracks", tracks)])]

/-- Two pages with the tracks of an album. -/
def sides : List Json :=
  [sheet [disc "a", .object [("id", .null)]] (.text "side 2"), sheet [.null, disc "b"] .null]

/-- Three pages of saved albums: the second one is empty, and some entries are null or have no album. -/
def shelf : List Json :=
  [sheet [saved "double" (sides.headD .null), .null, .object [("album", .null)]] (.text "shelf 2"),
    sheet [] (.text "shelf 3"), sheet [saved "empty" .null] .null]

/-- The saved albums, with the pages of their tracks. -/
def records : List (Json × List Json) :=
  [(saved "double" (sides.headD .null), sides), (saved "empty" .null, [.null])]

/-- A connector to the service in memory, with two tries more than the first. -/
def recorder : Connector Recorder where
  client := recorded ((.savedAlbums, shelf.headD .null) :: links shelf ++ records.flatMap (links ·.2))
  maxPages := 4

/-- The server is not available. -/
def unavailable : CallFault := .refused (.int 503) (some "unavailable") .null .null

/-- What is asked for is not there. -/
def notFound : CallFault := .refused (.int 404) (some "not found") .null .null

theorem offers_shelf : savedAlbums.Offers recorder.maxPages shelf records where
  starts := List.cons_ne_nil _ _
  chain := .cons (by decide +kernel) (by decide +kernel)
    (.cons (by decide +kernel) (by decide +kernel) (.last (by decide +kernel)))
  fits := by decide +kernel
  taken := by decide +kernel
  opens := by
    refine List.forall_mem_cons.2 ⟨⟨rfl, ?_, by decide +kernel⟩, List.forall_mem_cons.2
      ⟨⟨by decide +kernel, .last (by decide +kernel), by decide +kernel⟩, List.forall_mem_nil _⟩⟩
    exact .cons (by decide +kernel) (by decide +kernel) (.last (by decide +kernel))

theorem serves_shelf :
    recorder.client.Serves (savedAlbums.plan recorder shelf records)
      fun rest _ => rest ⊆ savedAlbums.plan recorder shelf records :=
  serves_recorded (by decide +kernel)

/-- A session in which calls fail as the script says. -/
def session (script : List (Option CallFault)) : Session Recorder := { client := ⟨script, []⟩ }

/-- Two attempts are broken off, one at the second page and one amid the tracks of an album: the third has
both albums, and each of the tracks once. A page that is not there ends the read with its call. -/
theorem run_pages_shelf :
    savedAlbums.Offers recorder.maxPages shelf records ∧
    recorder.client.Serves (savedAlbums.plan recorder shelf records)
      (fun rest _ => rest ⊆ savedAlbums.plan recorder shelf records) ∧
    (∃ albums t, (savedAlbums.run recorder).runOn
        (session [none, some unavailable, none, none, none, some unavailable]) = (.ok albums, t) ∧
      records.mapM savedAlbums.convert = .ok albums ∧
      albums.map (fun l => l.tracks.map (·.externalId)) = [[.text "a", .text "b"], []]) ∧
    ∃ t call, (savedAlbums.run recorder).runOn (session [none, some notFound, none]) =
        (.error notFound.ending, t) ∧
      t.client.sent = [(.savedAlbums, none), (call, some notFound)] := by
  refine ⟨offers_shelf, serves_shelf, ?_, ?_⟩
  · have hids : ((savedAlbums.run recorder).runOn
        (session [none, some unavailable, none, none, none, some unavailable])).1.toOption.map
          (fun albums => albums.map fun l => l.tracks.map (·.externalId)) =
        some [[.text "a", .text "b"], []] := by decide +kernel
    rcases hrun : (savedAlbums.run recorder).runOn
      (session [none, some unavailable, none, none, none, some unavailable]) with ⟨f | albums, t⟩
    · rw [hrun] at hids
      cases hids
    · rw [hrun] at hids
      obtain ⟨hwhole, -⟩ := run_pages offers_shelf serves_shelf (List.Subset.refl _) hrun
      exact ⟨albums, t, rfl, hwhole albums rfl, Option.some.inj hids⟩
  · have hsent : ((savedAlbums.run recorder).runOn (session [none, some notFound, none])).2.client.sent =
        [(.savedAlbums, none), (.nextPage (shelf.headD .null), some notFound)] := by decide +kernel
    have hfatal : ¬notFound.ending.IsTransient := by
      rintro ⟨fault, hfault⟩
      have hkind : notFound.ending.isPassing = false := by decide +kernel
      rw [hfault] at hkind
      cases hkind
    rcases hrun : (savedAlbums.run recorder).runOn (session [none, some notFound, none]) with ⟨r, t⟩
    rw [hrun] at hsent
    obtain ⟨-, -, hends⟩ := run_pages offers_shelf serves_shelf (List.Subset.refl _) hrun
    obtain ⟨-, rfl⟩ := hends Recorder.sent (notes_recorded _) (List.forall_mem_nil _)
      [(.savedAlbums, none)] _ _ [] hsent hfatal
    exact ⟨t, _, rfl, hsent⟩

end PagedRead

end Mixtape.Service
