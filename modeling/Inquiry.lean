import Inquiry.Main
import Inquiry.Store.Scripted
import Inquiry.Proofs.Acceptance
import Inquiry.Proofs.Attempts
import Inquiry.Proofs.Cancellation
import Inquiry.Proofs.Membership
import Inquiry.Proofs.Downgrading
import Inquiry.Proofs.Filling
import Inquiry.Proofs.Preparation
import Inquiry.Proofs.Ranges
import Inquiry.Proofs.Responses
import Inquiry.Proofs.Retries
import Inquiry.Proofs.Scanning
import Inquiry.Proofs.SelectionText
import Inquiry.Proofs.TableNames
import Inquiry.Proofs.Columns
import Inquiry.Proofs.KeywordPlanning
import Inquiry.Proofs.Lowering
import Inquiry.Proofs.Keywords
import Inquiry.Proofs.WholeWords
import Inquiry.Proofs.Shading
import Inquiry.Proofs.Comments
import Inquiry.Proofs.Chronology
import Inquiry.Proofs.Complaints
import Inquiry.Proofs.Extraction
import Inquiry.Proofs.Carrying
import Inquiry.Proofs.Fences
import Inquiry.Proofs.BoundValues
import Inquiry.Proofs.Plurals
import Inquiry.Proofs.MissingRecords
import Inquiry.Proofs.LiteralBytes
import Inquiry.Proofs.TrimmedCode
import Inquiry.Proofs.Services
