import ComponentDocs.Report.Json
import ComponentDocs.Report.Markdown

/-!
# Text of a report

The choice between the two formats.
-/

namespace ComponentDocs

def Report.text (format : Format) (report : Report) : String :=
  match format with
  | .json => report.jsonText
  | .markdown => report.markdownText

end ComponentDocs
