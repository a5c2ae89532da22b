import BlogTheme.Proofs.Date.Stamp
import BlogTheme.Proofs.Json.Codec
import BlogTheme.Proofs.Json.Text
import BlogTheme.Request.Json

/-!
# Requests read back

Every value of a request is kept by its codec, if its times are dates (`Post.keeps`,
`Request.keeps`). Times that were read are (`Post.hasDate_of_decode`, `Request.hasDates_of_decode`),
so a request that a document gives with its time is read from the document written for it, and from
the text of that document, as it was (`Request.read_back`).
-/

namespace BlogTheme

open Json (Codec Member Refusal)
open Json.Codec
open Json.Record (given keeps_record)

/-! ## Times -/

namespace Date.Moment

theorem IsDate.keeps {m : Moment} (h : m.IsDate) : codec.Keeps m := by
  simp only [Codec.Keeps, codec, Json.ofString, Json.Decode.string, bind, Except.bind,
    h.read?_stamp]
  rfl

theorem isDate_of_decode {j : Json} {m : Moment} (h : codec.decode j = .ok m) : m.IsDate := by
  obtain ⟨text, -, h⟩ := ok_of_bind h
  split at h
  · next hread =>
    cases h
    exact isDate_of_read? hread
  · cases h

theorem writesWhole : codec.WritesWhole := fun _ => rfl

end Date.Moment

/-! ## Structures without times -/

theorem Blog.keeps (b : Blog) : codec.Keeps b := by
  refine keeps_record (by decide) ?_
  simp only [fields, List.foldlM_cons, List.foldlM_nil, field_set_of_keeps (keeps_string _)]
  rfl

theorem Tag.keeps (t : Tag) : codec.Keeps t := by
  refine keeps_record (by decide) ?_
  simp only [fields, List.foldlM_cons, List.foldlM_nil, field_set_of_keeps (keeps_int64 _),
    field_set_of_keeps (keeps_string _)]
  rfl

theorem Author.keeps (a : Author) : codec.Keeps a := by
  refine keeps_record (by decide) ?_
  simp only [fields, List.foldlM_cons, List.foldlM_nil, field_set_of_keeps (keeps_int64 _),
    field_set_of_keeps (keeps_string _)]
  rfl

theorem NavItem.keeps (i : NavItem) : codec.Keeps i := by
  refine keeps_record (by decide) ?_
  simp only [fields, List.foldlM_cons, List.foldlM_nil, field_set_of_keeps (keeps_string _),
    field_set_of_keeps (keeps_bool _)]
  rfl

theorem Pagination.keeps (p : Pagination) : codec.Keeps p := by
  refine keeps_record (by decide) ?_
  simp only [fields, List.foldlM_cons, List.foldlM_nil, field_set_of_keeps (keeps_string _),
    field_set_of_keeps (keeps_uint32 _)]
  rfl

theorem PageKind.keeps (k : PageKind) : codec.Keeps k := by
  cases k <;> rfl

/-! ## Posts -/

/-- The time of the post, if it has one, is a date. -/
def Post.HasDate (p : Post) : Prop :=
  ∀ m ∈ p.publishedAt, m.IsDate

theorem Post.keeps {p : Post} (h : p.HasDate) : codec.Keeps p := by
  have hdate : Date.Moment.codec.option.Keeps p.publishedAt :=
    .option (fun _ => nofun) fun m hm => (h m hm).keeps
  have htags : Tag.codec.list.Keeps p.tags := .list fun t _ => t.keeps
  have hauthor : Author.codec.option.Keeps p.author := .option (fun _ => nofun) fun a _ => a.keeps
  refine keeps_record (by decide) ?_
  simp only [fields, List.foldlM_cons, List.foldlM_nil, field_set_of_keeps (keeps_int64 _),
    field_set_of_keeps (keeps_string _), field_set_of_keeps (keeps_bool _),
    field_set_of_keeps hdate, field_set_of_keeps htags, field_set_of_keeps hauthor]
  rfl

/-- No field of a post takes a time that is not a date. -/
theorem Post.hasDate_of_set {f : Member Post} (hf : f ∈ fields) {j : Json} {p p' : Post}
    (h : f.set j p = .ok p') (hp : p.HasDate) : p'.HasDate := by
  simp only [fields, List.mem_cons, List.not_mem_nil, or_false] at hf
  obtain rfl | rfl | rfl | rfl | rfl | rfl | rfl | rfl | rfl | rfl | rfl | rfl | rfl := hf <;>
    obtain ⟨a, ha, rfl⟩ := ok_of_map h
  -- Every field but the one of the time leaves the time as it is.
  all_goals first
    | exact hp
    | exact of_option_decode Date.Moment.isDate_of_decode ha

theorem Post.hasDate_of_decode {j : Json} {p : Post} (h : codec.decode j = .ok p) : p.HasDate := by
  have hstart : Post.HasDate {} := nofun
  exact (Json.Record.sets_of_read h).preserves
    (fun _ hf => hasDate_of_set (Json.Record.mem_of_mem_given hf)) hstart

/-! ## Requests -/

namespace Request

/-- The times of all posts of the request are dates. -/
structure PostsHaveDates (r : Request) : Prop where
  post : ∀ p ∈ r.post, p.HasDate
  posts : ∀ p ∈ r.posts, p.HasDate
  recommends : ∀ p ∈ r.recommends, p.HasDate
  prevPost : ∀ p ∈ r.prevPost, p.HasDate
  nextPost : ∀ p ∈ r.nextPost, p.HasDate

theorem keeps {r : Request} (h : r.PostsHaveDates) (hnow : r.now.IsDate) (later : Date.Moment) :
    (codec later).Keeps r := by
  have hpost {p : Option Post} (hp : ∀ p' ∈ p, p'.HasDate) : Post.codec.option.Keeps p :=
    .option (fun _ => nofun) fun p' hp' => Post.keeps (hp p' hp')
  have hposts {ps : List Post} (hps : ∀ p ∈ ps, p.HasDate) : Post.codec.list.Keeps ps :=
    .list fun p hp => Post.keeps (hps p hp)
  have htag (t : Option Tag) : Tag.codec.option.Keeps t :=
    .option (fun _ => nofun) fun t _ => t.keeps
  have htags (ts : List Tag) : Tag.codec.list.Keeps ts := .list fun t _ => t.keeps
  have hauthor (a : Option Author) : Author.codec.option.Keeps a :=
    .option (fun _ => nofun) fun a _ => a.keeps
  have hnavigation (is : List NavItem) : NavItem.codec.list.Keeps is := .list fun i _ => i.keeps
  refine keeps_record (by decide) ?_
  simp only [fields, List.foldlM_cons, List.foldlM_nil, field_set_of_keeps (Blog.keeps _),
    field_set_of_keeps (hpost h.post), field_set_of_keeps (hposts h.posts),
    field_set_of_keeps (htag _), field_set_of_keeps (hauthor _),
    field_set_of_keeps (hnavigation _), field_set_of_keeps (Pagination.keeps _),
    field_set_of_keeps (htags _), field_set_of_keeps (hposts h.recommends),
    field_set_of_keeps (hpost h.prevPost), field_set_of_keeps (hpost h.nextPost),
    field_set_of_keeps (PageKind.keeps _), field_set_of_keeps hnow.keeps]
  rfl

/-- No field of a request takes a post whose time is not a date. -/
theorem postsHaveDates_of_set {f : Member Request} (hf : f ∈ fields) {j : Json} {r r' : Request}
    (h : f.set j r = .ok r') (hr : r.PostsHaveDates) : r'.PostsHaveDates := by
  simp only [fields, List.mem_cons, List.not_mem_nil, or_false] at hf
  have hpost {j : Json} {p : Option Post} (hp : Post.codec.option.decode j = .ok p) :
      ∀ p' ∈ p, p'.HasDate := of_option_decode Post.hasDate_of_decode hp
  have hposts {j : Json} {ps : List Post} (hps : Post.codec.list.decode j = .ok ps) :
      ∀ p ∈ ps, p.HasDate := of_list_decode Post.hasDate_of_decode hps
  obtain rfl | rfl | rfl | rfl | rfl | rfl | rfl | rfl | rfl | rfl | rfl | rfl | rfl := hf <;>
    obtain ⟨a, ha, rfl⟩ := ok_of_map h
  · exact { hr with }
  · exact { hr with post := hpost ha }
  · exact { hr with posts := hposts ha }
  · exact { hr with }
  · exact { hr with }
  · exact { hr with }
  · exact { hr with }
  · exact { hr with }
  · exact { hr with recommends := hposts ha }
  · exact { hr with prevPost := hpost ha }
  · exact { hr with nextPost := hpost ha }
  · exact { hr with }
  · exact { hr with }

/-- The time of a request is a date if it was before or is what the field sets. -/
theorem now_isDate_of_set {f : Member Request} (hf : f ∈ fields) {j : Json} {r r' : Request}
    (h : f.set j r = .ok r') (hr : f.name = "now" ∨ r.now.IsDate) : r'.now.IsDate := by
  simp only [fields, List.mem_cons, List.not_mem_nil, or_false] at hf
  obtain rfl | rfl | rfl | rfl | rfl | rfl | rfl | rfl | rfl | rfl | rfl | rfl | rfl := hf <;>
    obtain ⟨a, ha, rfl⟩ := ok_of_map h
  all_goals first
    | exact Date.Moment.isDate_of_decode ha
    | exact hr.resolve_left (by simp [field])

/-- The document gives the time of the request. -/
def GivesTime (j : Json) : Prop :=
  ∃ f ∈ given fields j, f.name = "now"

variable {now : Date.Moment} {j : Json} {r : Request}

theorem postsHaveDates_of_decode (h : (codec now).decode j = .ok r) : r.PostsHaveDates := by
  have hstart : PostsHaveDates { now } := by
    constructor <;> simp
  exact (Json.Record.sets_of_read h).preserves
    (fun _ hf => postsHaveDates_of_set (Json.Record.mem_of_mem_given hf)) hstart

theorem now_isDate_of_decode (h : (codec now).decode j = .ok r) (hnow : GivesTime j) :
    r.now.IsDate := by
  obtain ⟨f, hf, hname⟩ := hnow
  have hmem {g : Member Request} (hg : g ∈ given fields j) := Json.Record.mem_of_mem_given hg
  exact (Json.Record.sets_of_read h).establishes hf
    (fun hset => now_isDate_of_set (hmem hf) hset (.inl hname))
    (fun _ hg _ _ _ hset hs => now_isDate_of_set (hmem hg) hset (.inr hs))

end Request

/-! ## Whole documents -/

theorem Blog.writesWhole : codec.WritesWhole :=
  writesWhole_record (by simp [fields, writesWhole_string.field]) _

theorem Tag.writesWhole : codec.WritesWhole :=
  writesWhole_record (by simp [fields, writesWhole_string.field, writesWhole_int64.field]) _

theorem Author.writesWhole : codec.WritesWhole :=
  writesWhole_record (by simp [fields, writesWhole_string.field, writesWhole_int64.field]) _

theorem NavItem.writesWhole : codec.WritesWhole :=
  writesWhole_record (by simp [fields, writesWhole_string.field, writesWhole_bool.field]) _

theorem Pagination.writesWhole : codec.WritesWhole :=
  writesWhole_record (by simp [fields, writesWhole_string.field, writesWhole_uint32.field]) _

theorem PageKind.writesWhole : codec.WritesWhole := fun _ => rfl

theorem Post.writesWhole : codec.WritesWhole :=
  writesWhole_record (by
    simp [fields, writesWhole_string.field, writesWhole_int64.field, writesWhole_bool.field,
      Date.Moment.writesWhole.option.field, Tag.writesWhole.list.field,
      Author.writesWhole.option.field]) _

namespace Request

theorem writesWhole (now : Date.Moment) : (codec now).WritesWhole :=
  writesWhole_record (by
    simp [fields, Blog.writesWhole.field, Post.writesWhole.option.field,
      Post.writesWhole.list.field, Tag.writesWhole.option.field, Tag.writesWhole.list.field,
      Author.writesWhole.option.field, NavItem.writesWhole.list.field,
      Pagination.writesWhole.field, PageKind.writesWhole.field, Date.Moment.writesWhole.field]) _

/-- A request that a document gives together with its time is written with all its fields. From the
document that is written, and from the text of that document, it is read as it was, whenever it
comes. -/
theorem read_back {now : Date.Moment} {j : Json} {r : Request}
    (h : (codec now).decode j = .ok r) (hnow : GivesTime j) (later : Date.Moment) :
    given fields ((codec later).encode r) = fields ∧
      (codec later).decode ((codec later).encode r) = .ok r ∧
      read later ((codec later).encode r).write = .ok r := by
  have hkeeps := keeps (postsHaveDates_of_decode h) (now_isDate_of_decode h hnow) later
  have hnames : (fields.map Member.name).Nodup := by decide
  have hgiven := Json.Record.given_write hnames r
  refine ⟨hgiven, hkeeps, ?_⟩
  rw [read, Json.decode_write (writesWhole later r)]
  exact hkeeps

/-- A leap second in the year 45 before the common era, by clocks that are ahead of Greenwich, and a
post of a year with five digits. -/
theorem read_back_leap_second :
    let j : Json := .ofMembers [("now", .ofString "-44-3-15T05:29:60.5+05:30"),
      ("post", .ofMembers [("published_at", .ofString "+12345-01-02T03:04:05.000000006Z")])]
    let r : Request :=
      { now := ⟨⟨-44, 3, 14⟩, 86399, 1500000000⟩
        post := some { publishedAt := some ⟨⟨12345, 1, 2⟩, 11045, 6⟩ } }
    (codec default).decode j = .ok r ∧ GivesTime j ∧
      (codec default).decode ((codec default).encode r) = .ok r ∧
      read default ((codec default).encode r).write = .ok r := by
  intro j r
  have hread : (codec default).decode j = .ok r := rfl
  have hnow : GivesTime j := ⟨_, List.mem_cons_self, rfl⟩
  exact ⟨hread, hnow, (read_back hread hnow default).2⟩

end Request

end BlogTheme
