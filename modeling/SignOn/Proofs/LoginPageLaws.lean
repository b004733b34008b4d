import SignOn.LoginPage
import SignOn.Proofs.Text.TagReader

/-!
# What a login page shows

The page is a fixed text with holes (`render_eq`), and what stands in a hole means the text that
the page was given. So a reader of the page comes upon the tags of `LoginPage.tags`, whatever these
texts are (`tagsOf_render`), and two pages, both with an error message or both without, have the
same tags with the same attributes (`render_unbroken`).
-/

namespace SignOn.LoginPage

open Text.Markup

-- ---------------------------------------------------------------------------
-- The text around the holes
-- ---------------------------------------------------------------------------

def opening : String :=
  "<!DOCTYPE html>\n<html>\n" ++
  "<head><meta charset=\"utf-8\"><title>Log in</title></head>\n<body>\n" ++
  "  <h1>Log in</h1>\n  <p>Sign in to continue to <strong>"

def nameEnd : String := "</strong>.</p>\n  "

def paragraphOpening : String := "<p style=\"color:red;\">"

def paragraphEnd : String := "</p>"

def formOpening : String := "\n  <form method=\"post\" action=\""

def userField : String :=
  "\">\n    <label>Username: <input type=\"text\" name=\"username\" value=\""

def closing : String :=
  "\" required/></label><br/>\n" ++
  "    <label>Password: <input type=\"password\" name=\"password\" required/></label><br/>\n" ++
  "    <button type=\"submit\">Log in</button>\n  </form>\n</body>\n</html>"

def paragraph (message : String) : String :=
  paragraphOpening ++ message ++ paragraphEnd

/-- The page with these texts in its holes, and with a paragraph if there is a message for it. -/
def filled (action clientId username : String) (message : Option String) : String :=
  opening ++ clientId ++ nameEnd ++ (message.map paragraph).getD "" ++ formOpening ++ action ++
  userField ++ username ++ closing

def shownError (page : LoginPage) : Option String :=
  if page.error = "" then none else some page.error

theorem render_eq (page : LoginPage) :
    page.render = filled (escape page.action) (escape page.clientId) (escape page.username)
      (page.shownError.map escape) := by
  unfold render parts errorParts shownError filled opening nameEnd paragraph paragraphOpening
    paragraphEnd formOpening userField closing
  split <;> simp [String.join, Part.render, String.append_assoc, -String.reduceAppend]

-- ---------------------------------------------------------------------------
-- The tags
-- ---------------------------------------------------------------------------

def begins (name : String) (attributes : List (String × String) := []) : Tag :=
  { name, attributes }

def ends (name : String) : Tag :=
  { closing := true, name }

def openingTags : List Tag :=
  [begins "html", begins "head", begins "meta" [("charset", "utf-8")], begins "title",
    ends "title", ends "head", begins "body", begins "h1", ends "h1", begins "p", begins "strong"]

def paragraphTags : List Tag :=
  [begins "p" [("style", "color:red;")], ends "p"]

def closingTags : List Tag :=
  [ends "label", begins "br", begins "label",
    begins "input" [("type", "password"), ("name", "password"), ("required", "")], ends "label",
    begins "br", begins "button" [("type", "submit")], ends "button", ends "form", ends "body",
    ends "html"]

def tags (page : LoginPage) : List Tag :=
  openingTags ++ [ends "strong", ends "p"] ++
  (page.shownError.map fun _ => paragraphTags).getD [] ++
  [begins "form" [("method", "post"), ("action", page.action)], begins "label",
    begins "input"
      [("type", "text"), ("name", "username"), ("value", page.username), ("required", "")]] ++
  closingTags

/-- A reader comes upon these tags in a text, and is at another place then. -/
def Passes (place : Place) (s : List Char) (tags : List Tag) (place' : Place) : Prop :=
  read place s = tags ∧ behind place s = place'
deriving Decidable

theorem Passes.read_append {place place' : Place} {s : List Char} {found : List Tag}
    (h : Passes place s found place') (rest : List Char) :
    read place (s ++ rest) = found ++ read place' rest := by
  rw [Text.Markup.read_append, h.1, h.2]

theorem read_message (message : Option String) (rest : List Char) :
    read .text ((((message.map escape).map paragraph).getD "").toList ++ rest) =
      (message.map fun _ => paragraphTags).getD [] ++ read .text rest := by
  obtain _ | message := message
  · rfl
  have hbegins : Passes .text paragraphOpening.toList [begins "p" [("style", "color:red;")]]
      .text := by decide +kernel
  have hends : Passes .text paragraphEnd.toList [ends "p"] .text := by decide +kernel
  simp only [Option.map_some, Option.getD_some, paragraph, String.toList_append, List.append_assoc]
  rw [hbegins.read_append, read_escape_text, hends.read_append]
  rfl

/-- What stands around the path and the user name is read in three runs, and the mark that ends
either of them is the first character of the run behind it. -/
theorem read_form (action username : String) :
    read .text (formOpening.toList ++ ((escape action).toList ++
      (userField.toList ++ ((escape username).toList ++ closing.toList)))) =
      [begins "form" [("method", "post"), ("action", action)], begins "label",
        begins "input"
          [("type", "text"), ("name", "username"), ("value", username), ("required", "")]] ++
      closingTags := by
  have hform : Passes .text formOpening.toList []
      (.quoted (begins "form" [("method", "post")]) "action".toList [] '"') := by decide +kernel
  have huserField : userField.toList = '"' :: '>' :: userField.toList.drop 2 := by decide +kernel
  have huser : Passes .text (userField.toList.drop 2) [begins "label"]
      (.quoted (begins "input" [("type", "text"), ("name", "username")]) "value".toList []
        '"') := by decide +kernel
  have hclosing : closing.toList = '"' :: ' ' :: 'r' :: 'e' :: 'q' :: 'u' :: 'i' :: 'r' :: 'e' ::
      'd' :: '/' :: '>' :: closing.toList.drop 12 := by decide +kernel
  have hrest : read .text (closing.toList.drop 12) = closingTags := by decide +kernel
  -- The tags that the two values stand in hold variables, so that they are not evaluated.
  have hend (tag : Tag) (rest : List Char) :
      read (.inside tag) ('>' :: rest) = tag :: read .text rest := rfl
  have hrequired (tag : Tag) (rest : List Char) :
      read (.inside tag)
        (' ' :: 'r' :: 'e' :: 'q' :: 'u' :: 'i' :: 'r' :: 'e' :: 'd' :: '/' :: '>' :: rest) =
        tag.put "required".toList [] :: read .text rest := rfl
  rw [hform.read_append, huserField, List.cons_append, read_escape_value, List.cons_append, hend,
    huser.read_append, hclosing, read_escape_value, hrequired, hrest]
  rfl

theorem tagsOf_render (page : LoginPage) : tagsOf page.render = page.tags := by
  have hopening : Passes .text opening.toList openingTags .text := by decide +kernel
  have hnameEnd : Passes .text nameEnd.toList [ends "strong", ends "p"] .text := by decide +kernel
  rw [tagsOf, render_eq, filled]
  simp only [String.toList_append, List.append_assoc]
  rw [hopening.read_append, read_escape_text, hnameEnd.read_append, read_message, read_form]
  simp only [tags, List.append_assoc]

/-- No text has a say in the shape of a page, except by whether there is an error message. -/
theorem tags_shape {page other : LoginPage} (h : page.error = "" ↔ other.error = "") :
    page.tags.map Tag.shape = other.tags.map Tag.shape := by
  simp only [tags, shownError, h]
  split <;> rfl

/-- The login page cannot be broken by its texts. -/
theorem render_unbroken (page other : LoginPage) (h : page.error = "" ↔ other.error = "") :
    (∃ (clientId username : String) (message : Option String),
      page.render = filled (escape page.action) clientId username message ∧
      Means clientId page.clientId ∧
      Means username page.username ∧
      (message.isSome ↔ page.error ≠ "") ∧
      ∀ hole ∈ message, Means hole page.error) ∧
    tagsOf page.render = page.tags ∧
    (tagsOf page.render).map Tag.shape = (tagsOf other.render).map Tag.shape := by
  refine ⟨⟨escape page.clientId, escape page.username, page.shownError.map escape, page.render_eq,
    means_escape _, means_escape _, ?_, fun hole hhole => ?_⟩, page.tagsOf_render, ?_⟩
  · rw [Option.isSome_map, shownError]
    split
    · next herror => simp [herror]
    · next herror => simp [herror]
  · obtain ⟨message, hmessage, rfl⟩ := Option.map_eq_some_iff.mp hhole
    rw [shownError] at hmessage
    split at hmessage
    · cases hmessage
    · cases hmessage
      exact means_escape page.error
  · rw [tagsOf_render, tagsOf_render, tags_shape h]

/-- A page whose texts are markup themselves, one of them escaped already. -/
def hostile : LoginPage where
  action := "/login"
  clientId := "\"><script>alert(1)</script>"
  username := "&amp;' onfocus='x"
  error := "<!-- & &lt;"

def plain : LoginPage where
  action := "/login"
  clientId := "app"
  error := "Invalid username or password."

theorem hostile_unbroken :
    (hostile.error = "" ↔ plain.error = "") ∧
    tagsOf hostile.render = hostile.tags ∧
    (tagsOf hostile.render).map Tag.shape = (tagsOf plain.render).map Tag.shape :=
  have h : hostile.error = "" ↔ plain.error = "" := by decide
  ⟨h, (render_unbroken hostile plain h).2⟩

end SignOn.LoginPage
