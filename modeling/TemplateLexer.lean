import TemplateLexer.Scanner
import TemplateLexer.Settings.Format
import TemplateLexer.Body.Reading
import TemplateLexer.Body.Step
import TemplateLexer.Proofs.Run
import TemplateLexer.Proofs.Positions
import TemplateLexer.Proofs.Bodies
import TemplateLexer.Proofs.Regions
import TemplateLexer.Proofs.RawBlocks
import TemplateLexer.Proofs.EndRaw
import TemplateLexer.Proofs.WellFormed
import TemplateLexer.Proofs.Concatenation
import TemplateLexer.Proofs.Openings
import TemplateLexer.Proofs.Written
import TemplateLexer.Proofs.Spacing
import TemplateLexer.Proofs.Faults
import TemplateLexer.Proofs.Precedences
import TemplateLexer.Proofs.Replacement
import TemplateLexer.Proofs.Escapes
import TemplateLexer.Proofs.Quotes
import TemplateLexer.Proofs.Notes
import TemplateLexer.Proofs.Images
import TemplateLexer.Offsets
import TemplateLexer.Proofs.Offsets
import TemplateLexer.Proofs.Calls
import TemplateLexer.Proofs.Structures
import TemplateLexer.Proofs.Forms
import TemplateLexer.Proofs.Contents
import TemplateLexer.Proofs.Descriptions
