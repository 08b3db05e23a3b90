import ClusterMigration.Report

/-!
# The report page

One table per component, one line per row, coloured by confidence. Text from the
reports is escaped, so that it stays text.
-/

namespace ClusterMigration

namespace Report

namespace Page

def escapeChar : Char → List Char
  | '&' => ['&', 'a', 'm', 'p', ';']
  | '<' => ['&', 'l', 't', ';']
  | '>' => ['&', 'g', 't', ';']
  | '"' => ['&', 'q', 'u', 'o', 't', ';']
  | '\'' => ['&', '#', '3', '9', ';']
  | c => [c]

def escape (text : String) : String :=
  String.ofList (text.toList.flatMap escapeChar)

def head : String :=
  "<!DOCTYPE html>\n<html>\n<head>\n<meta charset=\"utf-8\">\n<title>CPMA report</title>\n" ++
  "<style>table\x7bborder-collapse:collapse;margin-bottom:2em\x7dtd,th\x7bborder:1px solid #ccc;" ++
  "padding:4px 8px\x7d</style>\n</head>\n<body>\n<h1>CPMA report</h1>\n"

def tableHead : String :=
  "<table>\n<tr><th>Name</th><th>Kind</th><th>Supported</th><th>Confidence</th>" ++
  "<th>Comment</th></tr>\n"

def tableFoot : String := "</table>\n"

def foot : String := "</body>\n</html>\n"

def cell (text : String) : String := "<td>" ++ text ++ "</td>"

def row (r : Row) : String :=
  "<tr style=\"background-color:" ++ r.confidence.colour ++ "\">" ++ cell (escape r.name)
    ++ cell (escape r.kind) ++ cell (if r.supported then "true" else "false")
    ++ cell (toString r.confidence.level) ++ cell (escape r.comment) ++ "</tr>\n"

def table (r : Report) : String :=
  "<h2>" ++ escape r.component ++ "</h2>\n" ++ tableHead ++ String.join (r.rows.map row)
    ++ tableFoot

end Page

def pageText (reports : List Report) : String :=
  Page.head ++ String.join (reports.map Page.table) ++ Page.foot

end Report

end ClusterMigration
