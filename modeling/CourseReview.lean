import CourseReview.Command.Arguments
import CourseReview.Main
import CourseReview.Proofs.Session.Buttons
import CourseReview.Proofs.Session.Generations
import CourseReview.Proofs.Session.Outstanding
import CourseReview.Proofs.Session.Overlap
import CourseReview.Sync.Recorded
import CourseReview.Proofs.Session.Permanence
import CourseReview.Proofs.Outline.History
import CourseReview.Proofs.Outline.Places
import CourseReview.Proofs.Session.Previews
import CourseReview.Proofs.Session.Histories
import CourseReview.Proofs.Session.AppliedVersions
import CourseReview.Proofs.Session.Requests
import CourseReview.Proofs.Session.Failures
import CourseReview.Proofs.Outline.Replacement
import CourseReview.Proofs.Sync.BulkLoad
import CourseReview.Proofs.Outline.Answers
import CourseReview.Proofs.Json.Records
import CourseReview.Proofs.Outline.Grammar
import CourseReview.Proofs.Outline.Reading
import CourseReview.Proofs.Outline.Encoding
import CourseReview.Proofs.Sync.Exchange
import CourseReview.Proofs.Sync.Questions
import CourseReview.Proofs.Command.Approving
import CourseReview.Proofs.Command.Printing
import CourseReview.Proofs.Outline.Batches
import CourseReview.Proofs.Outline.Walk
import CourseReview.Proofs.Outline.Remaining
import CourseReview.Proofs.Outline.Sharing
import CourseReview.Proofs.Outline.ContentInPlace
import CourseReview.Proofs.Outline.Choices
import CourseReview.Proofs.Sync.BelowContent
import CourseReview.Proofs.Outline.PathText
import CourseReview.Proofs.Outline.Printed
import CourseReview.Proofs.Session.Rejections
import CourseReview.Proofs.Outline.Ancestry
import CourseReview.Proofs.Url.Literal
import CourseReview.Proofs.Url.Segments
import CourseReview.Proofs.Url.Special
import CourseReview.Proofs.Url.Base
import CourseReview.Proofs.Url.Endpoint
import CourseReview.Proofs.Settings.Usable
