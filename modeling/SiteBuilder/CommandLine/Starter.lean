/-!
# The starter template

The files of a template to start from: a form of two steps, a page that shows its answers, and a file of
answers to try it with.
-/

namespace SiteBuilder.CommandLine

/-- The form of the starter template. -/
def starterConfig : String :=
  "\x7b\n  \"name\": \"starter\",\n  \"description\": \"A one-page personal site\",\n  \"steps\": [\n" ++
  "    \x7b\n      \"id\": \"about\",\n      \"title\": \"About you\",\n      \"fields\": [\n" ++
  "        \x7b \"name\": \"name\", \"label\": \"Your name\", \"default\": \"World\", \"required\": true \x7d,\n" ++
  "        \x7b \"name\": \"bio\", \"type\": \"textarea\", \"validation\": \x7b \"maxLength\": 280 \x7d \x7d\n" ++
  "      ]\n    \x7d,\n" ++
  "    \x7b\n      \"id\": \"style\",\n      \"title\": \"Style\",\n      \"fields\": [\n" ++
  "        \x7b \"name\": \"accent\", \"type\": \"color\", \"default\": \"#3b82f6\" \x7d,\n" ++
  "        \x7b \"name\": \"email\", \"type\": \"email\" \x7d\n" ++
  "      ]\n    \x7d\n  ]\n\x7d\n"

/-- The page of the starter template. -/
def starterPage : String :=
  "<!DOCTYPE html>\n<html>\n<head>\n  <title>\x7bname\x7d</title>\n</head>\n<body>\n" ++
  "  <h1>Hello \x7bname\x7d!</h1>\n  <p>\x7bbio|Tell the world about yourself.\x7d</p>\n" ++
  "  <a href=\"mailto:\x7bemail\x7d\">Contact</a>\n</body>\n</html>\n"

/-- The style sheet of the starter template. -/
def starterStyle : String := "h1 \x7b color: \x7baccent\x7d; \x7d\n"

/-- The script of the starter template. -/
def starterScript : String :=
  "const owner = \"\x7bname\x7d\";\nconsole.log(\x60Site of $\x7bowner\x7d\x60);\n"

/-- Answers to try the starter template with. -/
def starterAnswers : String := "\x7b\n  \"name\": \"Ada Lovelace\",\n  \"bio\": \"First programmer.\"\n\x7d\n"

/-- The files of the starter template, in the order in which they are written. -/
def starterFiles : List (String × String) :=
  [("config.json", starterConfig), ("index.html", starterPage), ("style.css", starterStyle),
    ("script.js", starterScript), ("answers.json", starterAnswers)]

end SiteBuilder.CommandLine
